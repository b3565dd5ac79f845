import TestSieve.CommandLine.Outcome
import TestSieve.Proofs.Definition.Build
import TestSieve.Proofs.Filter.Vocabulary

namespace TestSieve.CommandLine

section

variable {ε α β : Type} {x : Except ε α} {f : α → Except ε β}

theorem bind_of_ok {a : α} (h : x = .ok a) : x >>= f = f a :=
  h ▸ rfl

theorem bind_of_error {e : ε} (h : x = .error e) : x >>= f = .error e :=
  h ▸ rfl

end

namespace Selection

variable [Regex.Engine] [Loadable Definition] [Loadable (List TestCase)]
  {files : Files} {definition listing : String}

-- What the stages of a selection give if none of them fails.
structure Stages (files : Files) (definition listing : String) (d : Definition)
    (tests : List TestCase) (f : CompiledFilter) (g : Filter) : Prop where
  definition : load files definition = .ok d
  listing    : load files listing = .ok tests
  built      : d.build = .ok f
  parsed     : Filter.parse f.xml = .ok g

-- What a selection fails with. A stage is reached only if no stage before it fails.
inductive Fails (files : Files) (definition listing : String) : Failure → Prop
  | definition {e : Failure} (h : load (α := Definition) files definition = .error e) :
    Fails files definition listing e
  | listing {d : Definition} {e : Failure} (hd : load files definition = .ok d)
    (h : load (α := List TestCase) files listing = .error e) : Fails files definition listing e
  | build {d : Definition} {tests : List TestCase} {cause : FilterError}
    (hd : load files definition = .ok d) (ht : load files listing = .ok tests)
    (h : d.build = .error cause) : Fails files definition listing (.notBuilt cause)
  | parse {d : Definition} {tests : List TestCase} {f : CompiledFilter} {cause : FilterError}
    (hd : load files definition = .ok d) (ht : load files listing = .ok tests)
    (hb : d.build = .ok f) (h : Filter.parse f.xml = .error cause) :
    Fails files definition listing (.notParsed cause)

theorem exists_fails_or_stages (files : Files) (definition listing : String) :
    (∃ e, Fails files definition listing e) ∨
      ∃ d tests f g, Stages files definition listing d tests f g := by
  cases hd : load (α := Definition) files definition
  case error e => exact .inl ⟨e, .definition hd⟩
  case ok d =>
    cases ht : load (α := List TestCase) files listing
    case error e => exact .inl ⟨e, .listing hd ht⟩
    case ok tests =>
      cases hb : d.build
      case error cause => exact .inl ⟨_, .build hd ht hb⟩
      case ok f =>
        cases hp : Filter.parse f.xml
        case error cause => exact .inl ⟨_, .parse hd ht hb hp⟩
        case ok g        => exact .inr ⟨d, tests, f, g, hd, ht, hb, hp⟩

end Selection

open Selection

namespace Command

variable {files : Files} {definition listing : String} {fullNames : Bool}
  {d : Definition} {tests : List TestCase} {f : CompiledFilter} {g : Filter}

theorem build_of_ok (h : d.build = .ok f) : build d = .ok f :=
  congrArg (·.mapError Failure.notBuilt) h

theorem build_of_error {cause : FilterError} (h : d.build = .error cause) :
    build d = .error (.notBuilt cause) :=
  congrArg (·.mapError Failure.notBuilt) h

variable [Regex.Engine]

theorem select_of_parsed (h : Filter.parse f.xml = .ok g) (tests : List TestCase) :
    f.select tests = .ok (tests.filter (g.pass ·)) :=
  bind_of_ok h

theorem select_of_refused {cause : FilterError} (h : Filter.parse f.xml = .error cause)
    (tests : List TestCase) : f.select tests = .error cause :=
  bind_of_error h

variable [Loadable Definition] [Loadable (List TestCase)]

theorem run_of_fails {e : Failure} (h : Fails files definition listing e) :
    run files (.select definition listing fullNames) = .error e := by
  rw [run]
  cases h
  case definition h     => exact bind_of_error h
  case listing hd h     => rw [bind_of_ok hd, bind_of_error h]
  case build hd ht h    => rw [bind_of_ok hd, bind_of_ok ht, bind_of_error (build_of_error h)]
  case parse hd ht hb h =>
    rw [bind_of_ok hd, bind_of_ok ht, bind_of_ok (build_of_ok hb), select_of_refused h]
    rfl

theorem run_of_stages (h : Stages files definition listing d tests f g) :
    run files (.select definition listing fullNames) =
      .ok ((tests.filter (g.pass ·)).map fun t => if fullNames then t.fullName else t.id) := by
  rw [run, bind_of_ok h.definition, bind_of_ok h.listing, bind_of_ok (build_of_ok h.built),
    select_of_parsed h.parsed]
  rfl

theorem run_select_eq_error_iff {e : Failure} :
    run files (.select definition listing fullNames) = .error e ↔
      Fails files definition listing e := by
  refine ⟨fun failed => ?_, run_of_fails⟩
  obtain ⟨e', fails⟩ | ⟨_, _, _, _, stages⟩ := exists_fails_or_stages files definition listing
  case inl => exact Except.error.inj (failed.symm.trans (run_of_fails fails)) ▸ fails
  case inr => cases failed.symm.trans (run_of_stages stages)

theorem run_compile_eq_ok_iff {lines : List String} :
    run files (.compile definition) = .ok lines ↔
      ∃ (d : Definition) (f : CompiledFilter),
        load files definition = .ok d ∧ d.build = .ok f ∧ lines = [f.xml] := by
  refine ⟨fun h => ?_, fun ⟨d, f, loaded, built, printed⟩ => ?_⟩
  · have ⟨d, loaded, h⟩ := Xml.bind_eq_ok.mp h
    have ⟨f, built, printed⟩ := Xml.map_eq_ok.mp h
    exact ⟨d, f, loaded, Xml.ok_of_mapError built, printed.symm⟩
  · rw [run, bind_of_ok loaded, bind_of_ok (build_of_ok built), printed]
    rfl

theorem run_check_eq_ok_iff {xml : String} {lines : List String} :
    run files (.check xml) = .ok lines ↔ (∃ g, Filter.parse xml = .ok g) ∧ lines = ["ok"] := by
  refine ⟨fun h => ?_, fun ⟨⟨g, parsed⟩, printed⟩ => ?_⟩
  · have ⟨g, parsed, printed⟩ := Xml.map_eq_ok.mp h
    exact ⟨⟨g, Xml.ok_of_mapError parsed⟩, printed.symm⟩
  · rw [run, parsed, printed]
    rfl

end Command

-- Arguments that ask for a command, however much they want to be told about it.
def Asks (arguments : List String) (command : Command) : Prop :=
  ∃ level, Request.ofArguments? arguments = some (.run command level)

namespace Arguments

variable {a : Arguments} {text : String}

-- Behind the name of a command a text is an operand if it cannot be taken for an option.
theorem step_plain (named : a.name?.isSome) (plain : text.toList.head? ≠ some '-') :
    a.step text = a.operand text := by
  rw [step]
  split
  case isTrue  => rfl
  case isFalse =>
    split
    case h_1 h | h_2 h | h_3 h => simp [h] at plain
    case h_4 =>
      split
      case h_1      => rfl
      case h_2 none => simp [none] at named

end Arguments

-- A text that is no option is handed on to the check as it is.
theorem asks_check {xml : String} (plain : xml.toList.head? ≠ some '-') :
    Asks ["check", xml] (.check xml) := by
  let named : Arguments := { name? := some .check }
  have first : Arguments.read {} ["check", xml] = named.read [xml] := rfl
  have second : named.read [xml] = .ok (.run (.check xml) .warn) := by
    have taken : named.step xml = .ok { named with operands := [xml] } := by
      rw [Arguments.step_plain rfl plain]
      simp [Arguments.operand, named, CommandName.operandCount, CommandName.allowsEmpty]
      rfl
    rw [Arguments.read, if_neg (by simp [named]), bind_of_ok taken]
    rfl
  exact ⟨.warn, by rw [Request.ofArguments?, first, second]⟩

theorem head?_of_build {d : Definition} {f : CompiledFilter} (h : d.build = .ok f) :
    f.xml.toList.head? = some '<' := by
  rw [Definition.build_eq] at h
  have ⟨_, _, h⟩ := Xml.bind_eq_ok.mp h
  rw [(Chain.compileBody_eq_ok h).2]
  simp [Xml.wrap, Xml.openTag]

namespace Outcome

theorem exit_ofResult_eq_zero_iff {r : Except Failure (List String)} :
    (ofResult r).exit = 0 ↔ ∃ lines, r = .ok lines := by
  cases r <;> simp [ofResult, exit]

theorem ending_ofResult_eq_failed_iff {r : Except Failure (List String)} {e : Failure} :
    (ofResult r).ending = .failed e ↔ r = .error e := by
  cases r <;> simp [ofResult]

section

variable [Regex.Engine] [Loadable Definition] [Loadable (List TestCase)]
  {files : Files} {definition listing : String} {fullNames : Bool} {arguments : List String}

theorem ofArguments_of_asks {command : Command} (h : Asks arguments command) :
    ofArguments files arguments = ofResult (command.run files) := by
  obtain ⟨_, h⟩ := h
  rw [ofArguments, h, ofRequest]

-- A compiled filter is printed as it is, on a line of its own.
theorem compile_of_built {d : Definition} {f : CompiledFilter}
    (h : Asks arguments (.compile definition)) (loaded : load files definition = .ok d)
    (built : d.build = .ok f) :
    ofArguments files arguments = { ending := .done, output := f.xml ++ "\n" } := by
  rw [ofArguments_of_asks h, Command.run_compile_eq_ok_iff.mpr ⟨d, f, loaded, built, rfl⟩]
  simp [ofResult, String.join]

theorem exists_built_of_output {xml : String} (h : Asks arguments (.compile definition))
    (printed : (ofArguments files arguments).output = xml ++ "\n") :
    ∃ (d : Definition) (f : CompiledFilter),
      load files definition = .ok d ∧ d.build = .ok f ∧ f.xml = xml := by
  rw [ofArguments_of_asks h] at printed
  cases ran : Command.run files (.compile definition) <;> rw [ran] at printed
  case error e  => simpa [ofResult] using congrArg String.toList printed
  case ok lines =>
    obtain ⟨d, f, loaded, built, rfl⟩ := Command.run_compile_eq_ok_iff.mp ran
    exact ⟨d, f, loaded, built, by simpa [ofResult, String.join] using printed⟩

theorem check_exit_iff {xml : String} (plain : xml.toList.head? ≠ some '-') :
    (ofArguments files ["check", xml]).exit = 0 ↔ ∃ g, Filter.parse xml = .ok g := by
  rw [ofArguments_of_asks (asks_check plain), exit_ofResult_eq_zero_iff]
  simp [Command.run_check_eq_ok_iff]

theorem select_of_fails {e : Failure} (h : Asks arguments (.select definition listing fullNames))
    (failed : Fails files definition listing e) :
    ofArguments files arguments = { ending := .failed e } := by
  rw [ofArguments_of_asks h, Command.run_of_fails failed]
  rfl

theorem select_of_stages {d : Definition} {tests : List TestCase} {f : CompiledFilter} {g : Filter}
    (h : Asks arguments (.select definition listing fullNames))
    (stages : Stages files definition listing d tests f g) :
    ofArguments files arguments = {
      ending := .done
      output := .join ((tests.filter (g.pass ·)).map fun t =>
        (if fullNames then t.fullName else t.id) ++ "\n") } := by
  rw [ofArguments_of_asks h, Command.run_of_stages stages]
  simp [ofResult, Function.comp_def]

theorem select_exit_iff (h : Asks arguments (.select definition listing fullNames)) :
    (ofArguments files arguments).exit = 0 ↔
      ∃ d tests f g, Stages files definition listing d tests f g := by
  refine ⟨fun zero => ?_, fun ⟨_, _, _, _, stages⟩ => ?_⟩
  · refine (exists_fails_or_stages ..).resolve_left fun ⟨e, failed⟩ => ?_
    rw [select_of_fails h failed] at zero
    cases zero
  · rw [select_of_stages h stages]
    rfl

-- The last two stages are what is compiled and what is checked.
theorem exists_stages_iff (h : Asks arguments (.compile definition)) :
    (∃ d tests f g, Stages files definition listing d tests f g) ↔
      (∃ d : Definition, load files definition = .ok d) ∧
      (∃ tests : List TestCase, load files listing = .ok tests) ∧
      ∃ xml, (ofArguments files arguments).exit = 0 ∧
        (ofArguments files arguments).output = xml ++ "\n" ∧
        (ofArguments files ["check", xml]).exit = 0 := by
  have plain {d : Definition} {f : CompiledFilter} (built : d.build = .ok f) :
      f.xml.toList.head? ≠ some '-' := by
    rw [head?_of_build built]
    decide
  refine ⟨fun ⟨d, tests, f, g, s⟩ => ?_, fun ⟨_, ⟨tests, listed⟩, xml, _, printed, checked⟩ => ?_⟩
  · have compiled : ofArguments files arguments = _ := compile_of_built h s.definition s.built
    exact ⟨⟨d, s.definition⟩, ⟨tests, s.listing⟩, f.xml, compiled ▸ rfl, compiled ▸ rfl,
      (check_exit_iff (plain s.built)).mpr ⟨g, s.parsed⟩⟩
  · obtain ⟨d, f, loaded, built, rfl⟩ := exists_built_of_output h printed
    have ⟨g, parsed⟩ := (check_exit_iff (plain built)).mp checked
    exact ⟨d, tests, f, g, loaded, listed, built, parsed⟩

-- A selection succeeds if the listing can be loaded, the definition can be compiled and what is
-- printed then passes its check, and it prints the tests that this filter selects. Else it prints
-- nothing and fails as the first of its stages that fails. That holds whatever the readers of the
-- files and the engine of the regular expressions are.
theorem select_agrees {select compile : List String}
    (hs : Asks select (.select definition listing fullNames))
    (hc : Asks compile (.compile definition)) :
    let outcome := ofArguments files select
    let compiled := ofArguments files compile
    (outcome.exit = 0 ↔
      (∃ d : Definition, load files definition = .ok d) ∧
      (∃ tests : List TestCase, load files listing = .ok tests) ∧
      ∃ xml, compiled.exit = 0 ∧ compiled.output = xml ++ "\n" ∧
        (ofArguments files ["check", xml]).exit = 0) ∧
    (outcome.exit = 0 → ∀ xml, compiled.output = xml ++ "\n" →
      ∃ (tests : List TestCase) (g : Filter),
        load files listing = .ok tests ∧ Filter.parse xml = .ok g ∧
        outcome.output = .join ((tests.filter (g.pass ·)).map fun t =>
          (if fullNames then t.fullName else t.id) ++ "\n")) ∧
    (outcome.exit ≠ 0 → outcome.exit = 1 ∧ outcome.output = "" ∧
      ∃ e, Command.run files (.select definition listing fullNames) = .error e) ∧
    ∀ e,
      (Command.run files (.select definition listing fullNames) = .error e ↔
        Fails files definition listing e) ∧
      (outcome.ending = .failed e ↔ Fails files definition listing e) := by
  intro outcome compiled
  refine ⟨(select_exit_iff hs).trans (exists_stages_iff hc), ?prints, ?fails, fun e => ?cause⟩
  case prints =>
    intro zero xml printed
    have ⟨d, tests, f, g, stages⟩ := (select_exit_iff hs).mp zero
    obtain ⟨d', f', loaded, built, rfl⟩ := exists_built_of_output hc printed
    cases loaded.symm.trans stages.definition
    cases built.symm.trans stages.built
    exact ⟨tests, g, stages.listing, stages.parsed,
      congrArg Outcome.output (select_of_stages hs stages)⟩
  case fails =>
    intro failed
    have ⟨e, fails⟩ :=
      (exists_fails_or_stages ..).resolve_right <| mt (select_exit_iff hs).mpr failed
    have same : outcome = { ending := .failed e } := select_of_fails hs fails
    exact ⟨same ▸ rfl, same ▸ rfl, e, Command.run_of_fails fails⟩
  case cause =>
    have same : outcome = _ := ofArguments_of_asks hs
    rw [same, ending_ofResult_eq_failed_iff, Command.run_select_eq_error_iff]
    exact ⟨.rfl, .rfl⟩

end

theorem select_agrees_one_test :
    let files : Files := fun path =>
      if path = "d.yaml" then some "any:\n- all:\n  - !category fast\n"
      else if path = "t.yml" then some "- id: '7'\n  categories: [fast]\n- id: '8'\n"
      else none
    let select := ["-v", "select", "d.yaml", "--", "t.yml"]
    Asks select (.select "d.yaml" "t.yml" false) ∧ Asks ["compile", "d.yaml"] (.compile "d.yaml") ∧
      (ofArguments files select).exit = 0 ∧ (ofArguments files select).output = "7\n" := by
  intro files select
  have hs : Asks select (.select "d.yaml" "t.yml" false) := ⟨.info, rfl⟩
  have hc : Asks ["compile", "d.yaml"] (.compile "d.yaml") := ⟨.warn, rfl⟩
  have listed : load files "t.yml" =
      .ok [{ id := "7", categories := ["fast"] }, ({ id := "8" } : TestCase)] := by
    have known : (load files "t.yml").toOption =
        some [{ id := "7", categories := ["fast"] }, ({ id := "8" } : TestCase)] := by
      decide +kernel
    cases loaded : load (α := List TestCase) files "t.yml" <;> rw [loaded] at known <;> cases known
    rfl
  have compiled : (ofArguments files ["compile", "d.yaml"]).exit = 0 := by decide +kernel
  have printed : (ofArguments files ["compile", "d.yaml"]).output =
      "<filter><cat>fast</cat></filter>" ++ "\n" := by decide +kernel
  have checked : (ofArguments files ["check", "<filter><cat>fast</cat></filter>"]).exit = 0 := by
    decide +kernel
  have parsed : Filter.parse "<filter><cat>fast</cat></filter>" =
      .ok (.field .category (.literal "fast")) := by
    have read : Xml.readDocument "<filter><cat>fast</cat></filter>".toList =
        .ok ⟨"filter", [], "", [⟨"cat", [], "fast", []⟩]⟩ := by rfl
    exact (Filter.parse_of_readDocument_ok read).trans (by rfl)
  have ⟨d, _, loaded, _⟩ := exists_built_of_output hc printed
  have ⟨agrees, prints, _⟩ := @select_agrees _ _ _ files _ _ _ _ _ hs hc
  have zero := agrees.mpr ⟨⟨d, loaded⟩, ⟨_, listed⟩, _, compiled, printed, checked⟩
  have ⟨tests, g, listed', parsed', output⟩ := prints zero _ printed
  cases listed.symm.trans listed'
  cases parsed.symm.trans parsed'
  exact ⟨hs, hc, zero, output.trans (by decide +kernel)⟩

end Outcome

end TestSieve.CommandLine
