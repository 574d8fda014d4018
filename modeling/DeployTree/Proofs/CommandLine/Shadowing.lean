import DeployTree.CommandLine.Program
import DeployTree.Proofs.Environment.Sources
import Mathlib.Data.List.TakeWhile

/-! # Arguments in front of the process

An argument `NAME=VALUE` is cut at its first equals sign, and it is accepted when there is one that
does not stand at the start (`DeployTree.CommandLine.binding?_eq_some_iff`,
`DeployTree.CommandLine.isSome_binding?_iff`). The program resolves a variable to the value of the
last argument for it, else to what the process has for it, if that is a text
(`DeployTree.CommandLine.resolves_of_accepted`). That nothing is put in front of the process where
there are no arguments makes no difference
(`DeployTree.CommandLine.Invocation.interpolator_eq`).
-/

namespace DeployTree.CommandLine

/-- Whether an argument binds a name to a value: the two stand around its first equals sign. -/
structure Binds (argument name value : String) : Prop where
  spelled : argument = name ++ "=" ++ value
  first : '=' ∉ name.toList

/-- What a name resolves to under arguments in front of the variables of a process: the value of the
last argument for it, without one the text that the process sets, and without either it is
missing. -/
inductive Resolves (arguments : List String) (block : EnvironmentBlock) (name : String) :
    Except Error String → Prop where
  | argument (front back : List String) (own value : String)
      (listed : arguments = front ++ own :: back) (binds : Binds own name value)
      (last : ∀ later ∈ back, ∀ other, ¬ Binds later name other) :
      Resolves arguments block name (.ok value)
  | process (value : String) (free : ∀ argument ∈ arguments, ∀ other, ¬ Binds argument name other)
      (sets : block.Sets name (Text.encode value)) : Resolves arguments block name (.ok value)
  | missing (free : ∀ argument ∈ arguments, ∀ other, ¬ Binds argument name other)
      (unset : ∀ value, ¬ block.Sets name (Text.encode value)) :
      Resolves arguments block name (.error (.configuration (.unbound name)))

variable {argument name value other : String} {arguments : List String}
  {bindings : List (String × String)}

private theorem Binds.toList_eq (binds : Binds argument name value) :
    argument.toList = name.toList ++ '=' :: value.toList := by
  simp [binds.spelled]

private theorem Binds.takeWhile_eq (binds : Binds argument name value) :
    argument.toList.takeWhile (· ≠ '=') = name.toList := by
  have before : ∀ c ∈ name.toList, decide (c ≠ '=') = true := fun c member =>
    decide_eq_true fun same => binds.first (same ▸ member)
  rw [binds.toList_eq, List.takeWhile_append_of_pos before, List.takeWhile_cons_of_neg (by simp),
    List.append_nil]

/-- An argument binds one name only. -/
theorem Binds.name_eq (binds : Binds argument name value) {also : String}
    (alike : Binds argument also other) : name = also :=
  String.toList_inj.mp (binds.takeWhile_eq.symm.trans alike.takeWhile_eq)

private theorem exists_binds (equals : '=' ∈ argument.toList) :
    ∃ name value, Binds argument name value := by
  obtain ⟨front, back, split, first⟩ := List.eq_append_cons_of_mem equals
  refine ⟨String.ofList front, String.ofList back, ?_, by rwa [String.toList_ofList]⟩
  exact String.toList_inj.mp (by simp [split])

private theorem binding?_of_binds (binds : Binds argument name value) :
    binding? argument = if name = "" then none else some (name, value) := by
  unfold binding?
  simp only [binds.takeWhile_eq]
  rw [binds.toList_eq, List.drop_left]
  by_cases empty : name = "" <;> simp [empty]

private theorem binding?_of_notMem (without : '=' ∉ argument.toList) :
    binding? argument = none := by
  have all : argument.toList.takeWhile (· ≠ '=') = argument.toList :=
    List.takeWhile_eq_self_iff.mpr fun c member =>
      decide_eq_true fun same => without (same ▸ member)
  unfold binding?
  simp only [all, List.drop_length]

/-- An argument is cut at its first equals sign, behind a name. -/
theorem binding?_eq_some_iff :
    binding? argument = some (name, value) ↔ Binds argument name value ∧ name ≠ "" := by
  constructor
  · intro found
    by_cases equals : '=' ∈ argument.toList
    · obtain ⟨own, content, binds⟩ := exists_binds equals
      rw [binding?_of_binds binds] at found
      split at found
      · cases found
      · rename_i named
        obtain ⟨rfl, rfl⟩ := Prod.mk.inj (Option.some.inj found)
        exact ⟨binds, named⟩
    · rw [binding?_of_notMem equals] at found
      cases found
  · rintro ⟨binds, named⟩
    rw [binding?_of_binds binds, if_neg named]

/-- An argument is accepted exactly when it has an equals sign and does not start with one. -/
theorem isSome_binding?_iff :
    (binding? argument).isSome = true ↔
      '=' ∈ argument.toList ∧ argument.toList.head? ≠ some '=' := by
  by_cases equals : '=' ∈ argument.toList
  · obtain ⟨name, value, binds⟩ := exists_binds equals
    have start : argument.toList.head? = some '=' ↔ name = "" := by
      rw [binds.toList_eq]
      cases chars : name.toList with
      | nil => simpa using String.toList_eq_nil_iff.mp chars
      | cons c rest =>
          have other : c ≠ '=' := fun same => binds.first (by simp [chars, same])
          have named : name ≠ "" := fun empty => by simp [empty] at chars
          simp [other, named]
    rw [binding?_of_binds binds, ne_eq, start]
    by_cases empty : name = "" <;> simp [empty, equals]
  · simp [binding?_of_notMem equals, equals]

/-- Putting no bindings in front of the process is the same as leaving it alone. -/
theorem Invocation.interpolator_eq (invocation : Invocation) (process : Lookup) :
    invocation.interpolator process =
      ⟨⟨invocation.envPrefix⟩,
        Bindings.shadowing (Dictionary.ofList invocation.bindings) process⟩ := by
  unfold interpolator
  cases given : invocation.bindings with
  | nil => rfl
  | cons first rest => rfl

/-- Accepted arguments and their bindings correspond in order. -/
theorem map_binding?_eq (accepted : arguments.mapM binding? = some bindings) :
    arguments.map binding? = bindings.map some := by
  induction arguments generalizing bindings with
  | nil =>
      obtain rfl : [] = bindings := Option.some.inj accepted
      rfl
  | cons argument rest ih =>
      simp only [List.mapM_cons, Option.bind_eq_bind, Option.bind_eq_some_iff, Option.pure_def,
        Option.some.injEq] at accepted
      obtain ⟨binding, own, others, later, rfl⟩ := accepted
      rw [List.map_cons, List.map_cons, own, ih later]

/-- The last binding for a name is that of the last argument for it. -/
theorem exists_last_argument (accepted : arguments.mapM binding? = some bindings)
    (found : (Dictionary.ofList bindings).find? name = some value) :
    ∃ front own back, arguments = front ++ own :: back ∧ Binds own name value ∧
      ∀ later ∈ back, ∀ other, ¬ Binds later name other := by
  obtain ⟨front, back, rfl, last⟩ := Dictionary.exists_last_of_find? found
  have same := map_binding?_eq accepted
  rw [List.map_append, List.map_cons, List.map_eq_append_iff] at same
  obtain ⟨before, rest, rfl, -, same⟩ := same
  rw [List.map_eq_cons_iff] at same
  obtain ⟨own, after, rfl, own_eq, after_eq⟩ := same
  obtain ⟨binds, -⟩ := binding?_eq_some_iff.mp own_eq
  refine ⟨before, own, after, rfl, binds, fun later member other alike => ?_⟩
  have listed : binding? later ∈ after.map binding? := List.mem_map_of_mem member
  rw [after_eq, List.mem_map] at listed
  obtain ⟨pair, among, is⟩ := listed
  obtain ⟨bindsPair, -⟩ := binding?_eq_some_iff.mp is.symm
  exact last pair among (bindsPair.name_eq alike)

/-- Without a binding for a name there is no argument for it. -/
theorem not_binds_of_find?_eq_none (accepted : arguments.mapM binding? = some bindings)
    (absent : (Dictionary.ofList bindings).find? name = none) :
    ∀ argument ∈ arguments, ∀ other, ¬ Binds argument name other := by
  intro argument member other alike
  have listed : binding? argument ∈ arguments.map binding? := List.mem_map_of_mem member
  rw [map_binding?_eq accepted, List.mem_map] at listed
  obtain ⟨pair, among, is⟩ := listed
  obtain ⟨bindsPair, -⟩ := binding?_eq_some_iff.mp is.symm
  exact Dictionary.ne_of_find?_eq_none absent pair among (bindsPair.name_eq alike)

/-- The interpolator of accepted arguments resolves every name as they say. -/
theorem resolves_of_accepted {invocation : Invocation} (block : EnvironmentBlock)
    (accepted : arguments.mapM binding? = some invocation.bindings)
    (permitted : Namespace.permits ⟨invocation.envPrefix⟩ name = true)
    (word : ∀ c ∈ name.toList, Text.isWordChar c = true) :
    Resolves arguments block name ((invocation.interpolator block.lookup).value name) := by
  -- a name with a null byte would be unbound in the process whatever its entries are
  have plain : '\x00' ∉ name.toList := fun member => absurd (word _ member) (by decide)
  rw [invocation.interpolator_eq, Interpolator.value, if_pos permitted]
  cases found : (Dictionary.ofList invocation.bindings).find? name with
  | some value =>
      obtain ⟨front, own, back, listed, binds, last⟩ := exists_last_argument accepted found
      simp only [Bindings.shadowing_of_some found]
      exact .argument front back own value listed binds last
  | none =>
      have free := not_binds_of_find?_eq_none accepted found
      simp only [Bindings.shadowing_of_none found]
      cases asked : block.lookup name with
      | some value =>
          exact .process value free ((EnvironmentBlock.lookup_eq_some_iff plain).mp asked)
      | none =>
          refine .missing free fun value sets => ?_
          rw [(EnvironmentBlock.lookup_eq_some_iff plain).mpr sets] at asked
          cases asked

/-- **Arguments in front of the process.** An argument is accepted exactly when it has an equals
sign and does not start with one, and it is cut at the first. Under accepted arguments a permitted
name resolves to the value of the last one for it, else to the text that the process sets, else it
is missing. An invocation without bindings is like one with an empty layer of them, and of layers of
any number the outermost that binds a name answers. -/
theorem shadowsProcess :
    (∀ argument : String, (binding? argument).isSome = true ↔
        '=' ∈ argument.toList ∧ argument.toList.head? ≠ some '=') ∧
      (∀ argument name value : String,
        binding? argument = some (name, value) ↔ Binds argument name value ∧ name ≠ "") ∧
      (∀ (arguments : List String) (invocation : Invocation) (block : EnvironmentBlock)
          (name : String), arguments.mapM binding? = some invocation.bindings →
        Namespace.permits ⟨invocation.envPrefix⟩ name = true →
        (∀ c ∈ name.toList, Text.isWordChar c = true) →
        Resolves arguments block name ((invocation.interpolator block.lookup).value name)) ∧
      (∀ (invocation : Invocation) (process : Lookup), invocation.bindings = [] →
        invocation.interpolator process =
          ⟨⟨invocation.envPrefix⟩, Bindings.shadowing Dictionary.empty process⟩) ∧
      (∀ (layers : List Bindings) (base : Lookup) (name : String),
        Bindings.Outermost layers base name (Bindings.stacked layers base name)) := by
  refine ⟨fun _ => isSome_binding?_iff, fun _ _ _ => binding?_eq_some_iff, ?_, ?_,
    Bindings.outermost_stacked⟩
  · exact fun _ _ block _ accepted permitted word =>
      resolves_of_accepted block accepted permitted word
  · intro invocation process bare
    rw [invocation.interpolator_eq, bare]
    rfl

/-- Arguments for a variable twice, the second time with an empty value, and for another one with an
equals sign in its value. -/
def repeatedArguments : List String := ["CONVERGDB_A=first", "CONVERGDB_B=x=y", "CONVERGDB_A="]

/-- A process with two of the variables and one whose value is no text. -/
def mixedBlock : EnvironmentBlock :=
  .ofPairs [(Text.encode "CONVERGDB_A", Text.encode "own"),
    (Text.encode "CONVERGDB_C", Text.encode "set"), (Text.encode "CONVERGDB_D", [102, 255])]

/-- The invocation that checks a document under these arguments. -/
def repeatedInvocation : Invocation where
  command := .check "deployment.json"
  envPrefix := "CONVERGDB_"
  bindings := [("CONVERGDB_A", "first"), ("CONVERGDB_B", "x=y"), ("CONVERGDB_A", "")]
  logLevel := "info"
  logFormat := .text

/-- The last binding for a name counts, be it empty, and a value of the process that is no text
counts as none. -/
theorem shadowsProcess_repeated :
    repeatedArguments.mapM binding? = some repeatedInvocation.bindings ∧
      Resolves repeatedArguments mixedBlock "CONVERGDB_A" (.ok "") ∧
      Resolves repeatedArguments mixedBlock "CONVERGDB_C" (.ok "set") ∧
      Resolves repeatedArguments mixedBlock "CONVERGDB_D"
        (.error (.configuration (.unbound "CONVERGDB_D"))) := by
  have accepted : repeatedArguments.mapM binding? = some repeatedInvocation.bindings := by decide
  have resolves (name : String)
      (permitted : Namespace.permits ⟨repeatedInvocation.envPrefix⟩ name = true)
      (word : name.toList.all Text.isWordChar = true) :=
    shadowsProcess.2.2.1 repeatedArguments repeatedInvocation mixedBlock name accepted permitted
      (List.all_eq_true.mp word)
  have last : (repeatedInvocation.interpolator mixedBlock.lookup).value "CONVERGDB_A" = .ok "" := by
    decide +kernel
  have fromProcess : (repeatedInvocation.interpolator mixedBlock.lookup).value "CONVERGDB_C" =
      .ok "set" := by
    decide +kernel
  have noText : (repeatedInvocation.interpolator mixedBlock.lookup).value "CONVERGDB_D" =
      .error (.configuration (.unbound "CONVERGDB_D")) := by
    decide +kernel
  refine ⟨accepted, ?_, ?_, ?_⟩
  · exact last ▸ resolves "CONVERGDB_A" (by decide) (by decide)
  · exact fromProcess ▸ resolves "CONVERGDB_C" (by decide) (by decide)
  · exact noText ▸ resolves "CONVERGDB_D" (by decide) (by decide)

end DeployTree.CommandLine
