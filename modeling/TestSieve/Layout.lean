import TestSieve.Xml.Escape

namespace TestSieve

-- Elements in nested groups. A group writes its own tag only where it is needed: a group of one
-- stands for its only item, and a larger one leaves its tag out when it is not asked for it.
inductive Layout (α : Type)
  | element (a : α)
  | group (tag : String) (items : List (Layout α))

namespace Layout

variable {α : Type}

mutual

-- Writes a layout; `tagged` asks a group, and what stands alone in it, for the own tag.
def write (item : Bool → α → List Char) (tagged : Bool) : Layout α → List Char
  | element a          => item tagged a
  | group _ []         => []
  | group _ [only]     => write item tagged only
  | group tag (i :: j :: items) =>
    let content := write item true i ++ (write item true j ++ writeAll item items)
    if tagged then Xml.wrap tag content else content

-- The items of a larger group, one after the other.
def writeAll (item : Bool → α → List Char) : List (Layout α) → List Char
  | []         => []
  | i :: items => write item true i ++ writeAll item items

end

-- Writes a layout of elements that always carry their tag.
def render (item : α → List Char) (tagged : Bool) (l : Layout α) : List Char :=
  l.write (fun _ => item) tagged

theorem writeAll_eq_flatMap (item : Bool → α → List Char) (items : List (Layout α)) :
    writeAll item items = items.flatMap (write item true) := by
  induction items with
  | nil         => rfl
  | cons _ _ ih => simp [writeAll, ih]

@[simp] theorem write_element (item : Bool → α → List Char) (tagged : Bool) (a : α) :
    write item tagged (element a) = item tagged a := by
  simp [write]

@[simp] theorem write_group_nil (item : Bool → α → List Char) (tagged : Bool) (tag : String) :
    write item tagged (group tag []) = [] := by
  simp [write]

@[simp] theorem write_group_singleton
    (item : Bool → α → List Char) (tagged : Bool) (tag : String) (only : Layout α) :
    write item tagged (group tag [only]) = write item tagged only := by
  simp [write]

-- From two items on, the flag decides about the group's own tag and nothing else.
theorem write_group_of_two_le (item : Bool → α → List Char) (tagged : Bool) (tag : String)
    {items : List (Layout α)} (h : 2 ≤ items.length) :
    write item tagged (group tag items) =
      if tagged then Xml.wrap tag (items.flatMap (write item true))
      else items.flatMap (write item true) := by
  match items with
  | i :: j :: items => simp [write, writeAll_eq_flatMap]

end Layout

end TestSieve
