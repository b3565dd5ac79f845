namespace TestSieve

-- The values that are recorded for each name, in the order of the names.
@[ext]
structure PropertyMap where
  entries : List (String × List String)
  sorted  : entries.Pairwise (·.1 < ·.1)
  deriving DecidableEq

namespace PropertyMap

abbrev Entries := List (String × List String)

-- Changes the values of a name, which has none before it is first recorded.
def alterEntries (name : String) (f : List String → List String) : Entries → Entries
  | []                     => [(name, f [])]
  | (key, values) :: rest =>
    if name = key then (key, f values) :: rest
    else if name < key then (name, f []) :: (key, values) :: rest
    else (key, values) :: alterEntries name f rest

def valuesIn (name : String) : Entries → List String
  | []                     => []
  | (key, values) :: rest  => if name = key then values else valuesIn name rest

theorem mem_alterEntries {name : String} {f : List String → List String} {entries : Entries}
    {entry : String × List String} (h : entry ∈ alterEntries name f entries) :
    entry.1 = name ∨ entry ∈ entries := by
  fun_induction alterEntries name f entries <;> grind

theorem alterEntries_sorted {name : String} {f : List String → List String} {entries : Entries}
    (h : entries.Pairwise (·.1 < ·.1)) : (alterEntries name f entries).Pairwise (·.1 < ·.1) := by
  induction entries with
  | nil => simp [alterEntries]
  | cons entry rest ih =>
    have ⟨least, h⟩ := List.pairwise_cons.mp h
    unfold alterEntries
    split
    case isTrue => exact List.pairwise_cons.mpr ⟨by simpa using least, h⟩
    case isFalse ne =>
      split
      case isTrue lt => grind [List.pairwise_cons]
      case isFalse nlt =>
        refine List.pairwise_cons.mpr ⟨fun e he => ?_, ih h⟩
        rcases mem_alterEntries he with he | he
        · grind
        · exact least e he

def empty : PropertyMap where
  entries := []
  sorted  := .nil

instance : Inhabited PropertyMap := ⟨empty⟩

def get (m : PropertyMap) (name : String) : List String :=
  valuesIn name m.entries

-- Gives a name its values, whatever it had before.
def set (m : PropertyMap) (name : String) (values : List String) : PropertyMap where
  entries := alterEntries name (fun _ => values) m.entries
  sorted  := alterEntries_sorted m.sorted

-- Records one more value for a name.
def add (m : PropertyMap) (name value : String) : PropertyMap where
  entries := alterEntries name (· ++ [value]) m.entries
  sorted  := alterEntries_sorted m.sorted

-- The map of a list of names with values, in which the last entry of a name counts.
def ofList (entries : Entries) : PropertyMap :=
  entries.foldl (fun m e => m.set e.1 e.2) empty

theorem valuesIn_eq_nil {name : String} {entries : Entries} (h : ∀ e ∈ entries, name < e.1) :
    valuesIn name entries = [] := by
  induction entries with
  | nil => rfl
  | cons e rest ih =>
    have lt := h e List.mem_cons_self
    have ne : name ≠ e.1 := fun eq => String.lt_irrefl _ (eq ▸ lt)
    simp [valuesIn, ne, ih fun e he => h e (List.mem_cons_of_mem _ he)]

theorem valuesIn_alterEntries {entries : Entries} (sorted : entries.Pairwise (·.1 < ·.1))
    (f : List String → List String) (name asked : String) :
    valuesIn asked (alterEntries name f entries) =
      if asked = name then f (valuesIn name entries) else valuesIn asked entries := by
  induction entries with
  | nil => simp [alterEntries, valuesIn]
  | cons entry rest ih =>
    have ⟨least, sorted⟩ := List.pairwise_cons.mp sorted
    have ih := ih sorted
    have absent : name < entry.1 → valuesIn name rest = [] :=
      fun lt => valuesIn_eq_nil fun e he => String.lt_trans lt (least e he)
    grind [alterEntries, valuesIn]

@[simp] theorem get_empty (name : String) : empty.get name = [] := rfl

theorem get_add (m : PropertyMap) (name value asked : String) :
    (m.add name value).get asked =
      if asked = name then m.get name ++ [value] else m.get asked :=
  valuesIn_alterEntries m.sorted _ name asked

theorem alterEntries_of_forall_lt {name : String} {f : List String → List String}
    {entries : Entries} (h : ∀ e ∈ entries, e.1 < name) :
    alterEntries name f entries = entries ++ [(name, f [])] := by
  induction entries with
  | nil => rfl
  | cons entry rest ih =>
    obtain ⟨before, h⟩ := List.forall_mem_cons.mp h
    have other : name ≠ entry.1 := fun eq => String.lt_irrefl _ (eq ▸ before)
    have after : ¬name < entry.1 := fun lt => String.lt_irrefl _ (String.lt_trans before lt)
    rw [alterEntries, if_neg other, if_neg after, ih h, List.cons_append]

-- Entries that continue a map in the order of the names are put at its end as they are.
theorem entries_foldl_set {m : PropertyMap} {entries : Entries}
    (h : (m.entries ++ entries).Pairwise (·.1 < ·.1)) :
    (entries.foldl (fun m e => m.set e.1 e.2) m).entries = m.entries ++ entries := by
  induction entries generalizing m with
  | nil => rw [List.foldl_nil, List.append_nil]
  | cons entry rest ih =>
    have last : ∀ e ∈ m.entries, e.1 < entry.1 :=
      fun e he => (List.pairwise_append.mp h).2.2 e he entry List.mem_cons_self
    have put : (m.set entry.1 entry.2).entries = m.entries ++ [entry] :=
      alterEntries_of_forall_lt last
    have h : ((m.set entry.1 entry.2).entries ++ rest).Pairwise (·.1 < ·.1) := by
      rwa [put, List.append_assoc]
    rw [List.foldl_cons, ih h, put, List.append_assoc, List.singleton_append]

theorem ofList_entries (m : PropertyMap) : ofList m.entries = m :=
  PropertyMap.ext (entries_foldl_set m.sorted)

end PropertyMap

end TestSieve
