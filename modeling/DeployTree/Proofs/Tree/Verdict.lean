import DeployTree.Proofs.Schema.Breach
import DeployTree.Proofs.Tree.Reached
import DeployTree.Proofs.Tree.Stopping
import Mathlib.Data.Prod.Lex

/-! # The verdict on a tree

A node passes a rule when it has the attribute and its value is accepted; otherwise the rule gives
an error of its own (`DeployTree.Faults`). The places where rules are checked are pairs: the
position of a node in the depth-first order, and that of a rule in the node's table. Where nodes are
validated by their tables, validating a reached tree succeeds exactly when every node passes every
rule. Otherwise it fails with the error of the least place at which a rule is not passed, and no
node after that place is validated (`DeployTree.Tree.Reached.verdict`). The least place is where two
searches end, one inside the other: that of the nodes for one that is refused
(`DeployTree.Tree.ByRules.foundAt_of_firstFailure`), and that of its rules.
-/

namespace DeployTree

section Search

variable {α β : Type} {find : α → Option β} {result : β} {items : List α} {index : Nat}

/-- Where a search ends: nothing is found before the position, and the result is found there. -/
inductive FoundAt (find : α → Option β) (result : β) : List α → Nat → Prop
  | here {item : α} {rest : List α} (found : find item = some result) :
      FoundAt find result (item :: rest) 0
  | later {item : α} {rest : List α} {index : Nat} (passed : find item = none)
      (found : FoundAt find result rest index) : FoundAt find result (item :: rest) (index + 1)

private theorem findSome?_eq_some_iff_exists_foundAt :
    items.findSome? find = some result ↔ ∃ index, FoundAt find result items index := by
  constructor
  · intro found
    induction items with
    | nil => cases found
    | cons item rest ih =>
        rw [List.findSome?_cons] at found
        cases own : find item with
        | some other =>
            rw [own] at found
            obtain rfl := Option.some.inj found
            exact ⟨0, .here own⟩
        | none =>
            rw [own] at found
            obtain ⟨index, later⟩ := ih found
            exact ⟨index + 1, .later own later⟩
  · rintro ⟨index, found⟩
    induction found with
    | here found => rw [List.findSome?_cons, found]
    | later passed _ ih => rw [List.findSome?_cons, passed, ih]

/-- A search ends at the least position where something is found. -/
theorem foundAt_iff_least :
    FoundAt find result items index ↔
      (∃ item, items[index]? = some item ∧ find item = some result) ∧
        ∀ other item, items[other]? = some item → find item ≠ none → index ≤ other := by
  constructor
  · intro found
    induction found with
    | here found => exact ⟨⟨_, rfl, found⟩, fun _ _ _ _ => Nat.zero_le _⟩
    | later passed _ ih =>
        obtain ⟨⟨item, here, found⟩, least⟩ := ih
        refine ⟨⟨item, here, found⟩, fun other item here hit => ?_⟩
        cases other with
        | zero =>
            obtain rfl := Option.some.inj here
            exact absurd passed hit
        | succ other => exact Nat.succ_le_succ (least other item here hit)
  · rintro ⟨⟨item, here, found⟩, least⟩
    induction items generalizing index with
    | nil => cases here
    | cons first rest ih =>
        cases index with
        | zero =>
            obtain rfl := Option.some.inj here
            exact .here found
        | succ index =>
            have passed : find first = none := Decidable.byContradiction fun hit =>
              Nat.not_succ_le_zero index (least 0 first rfl hit)
            refine .later passed (ih (fun other item there hit => ?_) here)
            exact Nat.le_of_succ_le_succ (least (other + 1) item there hit)

end Search

section Rules

variable {ν : Type} [Attributed ν] {node : ν} {rule : Rule} {error : Error}

/-- A node passes a rule when it has the attribute and its value is accepted. -/
def Passes (node : ν) (rule : Rule) : Prop :=
  ∃ setting, Attributed.read node rule.name = .ok setting ∧ rule.accepts setting = true

/-- The error of a rule that a node does not pass. -/
inductive Faults (node : ν) (rule : Rule) : Error → Prop
  | unknown {error : Error} (refused : Attributed.read node rule.name = .error error) :
      Faults node rule (.unknownAttribute (Attributed.kind node) rule.name)
  | broken {setting : Option Value} (reads : Attributed.read node rule.name = .ok setting)
      (refused : rule.accepts setting = false) :
      Faults node rule (.validation ⟨Attributed.kind node, rule.name, shownSetting setting⟩)

private theorem fault?_eq_none_iff : fault? node rule = none ↔ Passes node rule := by
  unfold fault? Passes
  cases Attributed.read node rule.name with
  | error error => simp
  | ok setting => cases accepted : rule.accepts setting <;> simp [accepted]

private theorem fault?_eq_some_iff (refuses : Refuses node) :
    fault? node rule = some error ↔ Faults node rule error := by
  unfold fault?
  constructor
  · intro found
    cases reads : Attributed.read node rule.name with
    | error reason =>
        rw [reads] at found
        obtain rfl := Option.some.inj found
        rw [refuses rule.name _ reads]
        exact .unknown reads
    | ok setting =>
        rw [reads] at found
        cases accepted : rule.accepts setting with
        | true => simp [accepted] at found
        | false =>
            obtain rfl : breachOf _ rule setting = error := by simpa [accepted] using found
            exact .broken reads accepted
  · rintro (⟨refused⟩ | ⟨reads, refused⟩)
    · rw [refused, refuses rule.name _ refused]
    · simp [reads, refused, breachOf]

end Rules

namespace Tree

variable {ν : Type} [Node ν] {arena : Arena ν} {tree : Tree ν .resolved} {id : NodeId} {node : ν}
  {error : Error} {place : Nat × Nat}

/-- Whether the nodes of a tree are validated by their rule tables. -/
structure ByRules (tree : Tree ν .resolved) : Prop where
  checks : ∀ id node, tree.node? id = some node →
    (Node.validate node).outcome = (checkRules node (Attributed.rules node)).outcome
  refuses : ∀ id node, tree.node? id = some node → Refuses node

/-- Whether a rule is not passed at a place: the position of a node in depth-first order and that of
a rule in its table. -/
def FailsAt (tree : Tree ν .resolved) (place : Nat × Nat) (error : Error) : Prop :=
  ∃ id node rule, tree.preorder[place.1]? = some id ∧ tree.node? id = some node ∧
    (Attributed.rules node)[place.2]? = some rule ∧ Faults node rule error

/-- The least place at which a rule is not passed, and its error. -/
structure FirstFailure (tree : Tree ν .resolved) (place : Nat × Nat) (error : Error) : Prop where
  fails : tree.FailsAt place error
  least : ∀ other reason, tree.FailsAt other reason → toLex place ≤ toLex other

/-- What validating a tree comes to. It succeeds exactly when every node passes every rule of its
table, and then nothing about the tree has changed. It fails exactly with the error of the first
failure, and all that has happened by then is the validating of the nodes up to that place. -/
structure Verdict (tree : Tree ν .resolved) : Prop where
  passes : (∃ validated, tree.validate.outcome = .ok validated) ↔
    ∀ id node, tree.node? id = some node → ∀ rule ∈ Attributed.rules node, Passes node rule
  kept : ∀ validated, tree.validate.outcome = .ok validated → validated.arena = tree.arena
  fails : ∀ error, tree.validate.outcome = .error error ↔ ∃ place, tree.FirstFailure place error
  stops : ∀ place error, tree.FirstFailure place error →
    tree.validate.trail =
      (tree.preorder.take (place.1 + 1)).flatMap fun id => (validateNode tree.arena id).trail

private theorem byRules_of_element (tree : Tree Element .resolved) : tree.ByRules where
  checks _ element _ := element.validate_outcome_eq_checkRules
  refuses _ element _ := element.refuses

private theorem Reached.mem_preorder_iff (reached : tree.Reached) :
    id ∈ tree.preorder ↔ ∃ node, tree.node? id = some node := by
  obtain ⟨forest, spans⟩ := reached.exists_spans
  rw [preorder, spans.preorder_eq_ids, spans.mem_ids_iff]
  constructor
  · intro inside
    obtain ⟨entry, found⟩ := Arena.exists_entry?_of_lt inside
    exact ⟨entry.node, by rw [node?, found, Option.map_some]⟩
  · rintro ⟨node, found⟩
    obtain ⟨entry, found, -⟩ := Option.map_eq_some_iff.mp found
    exact Arena.index_lt_of_entry? found

/-- A node is refused with the error of the first rule that it does not pass. -/
theorem ByRules.refusal?_eq (byRules : tree.ByRules) (found : tree.node? id = some node) :
    refusal? tree.arena id = (Attributed.rules node).findSome? (fault? node) := by
  have checks := byRules.checks id node found
  obtain ⟨entry, here, rfl⟩ := Option.map_eq_some_iff.mp found
  rw [← validateNode_outcome here, checkRules_outcome] at checks
  rw [refusal?, checks]
  cases (Attributed.rules entry.node).findSome? (fault? entry.node) <;> rfl

private theorem ByRules.refusal?_ne_none_iff (byRules : tree.ByRules)
    (found : tree.node? id = some node) :
    refusal? tree.arena id ≠ none ↔
      ∃ (number : Nat) (rule : Rule) (reason : Error),
        (Attributed.rules node)[number]? = some rule ∧ Faults node rule reason := by
  have refuses := byRules.refuses id node found
  rw [byRules.refusal?_eq found, Option.ne_none_iff_exists']
  constructor
  · rintro ⟨reason, refused⟩
    obtain ⟨number, inRules⟩ := findSome?_eq_some_iff_exists_foundAt.mp refused
    obtain ⟨⟨rule, listed, fault⟩, -⟩ := foundAt_iff_least.mp inRules
    exact ⟨number, rule, reason, listed, (fault?_eq_some_iff refuses).mp fault⟩
  · rintro ⟨number, rule, reason, listed, faults⟩
    have hit := (fault?_eq_some_iff refuses).mpr faults
    rw [← Option.isSome_iff_exists, List.isSome_findSome?, List.any_eq_true]
    exact ⟨rule, List.mem_of_getElem? listed, by rw [hit, Option.isSome_some]⟩

/-- The first failure of a tree is where the search for a node that is refused ends, and in it the
search for a rule that it does not pass. -/
theorem ByRules.foundAt_of_firstFailure (byRules : tree.ByRules) (reached : tree.Reached)
    (first : tree.FirstFailure place error) :
    FoundAt (refusal? tree.arena) error tree.preorder place.1 := by
  obtain ⟨position, number⟩ := place
  obtain ⟨⟨id, node, rule, here, found, listed, faults⟩, least⟩ := first
  have refuses := byRules.refuses id node found
  -- Against the other rules of the node the least place decides by its second part,
  have inRules : FoundAt (fault? node) error (Attributed.rules node) number := by
    refine foundAt_iff_least.mpr ⟨⟨rule, listed, (fault?_eq_some_iff refuses).mpr faults⟩, ?_⟩
    intro other next there hit
    obtain ⟨reason, hit⟩ := Option.ne_none_iff_exists'.mp hit
    have order := least (position, other) reason
      ⟨id, node, next, here, found, there, (fault?_eq_some_iff refuses).mp hit⟩
    simpa [Prod.Lex.toLex_le_toLex] using order
  have refused : refusal? tree.arena id = some error := by
    rw [byRules.refusal?_eq found]
    exact findSome?_eq_some_iff_exists_foundAt.mpr ⟨number, inRules⟩
  -- and against the rules of the other nodes by its first.
  refine foundAt_iff_least.mpr ⟨⟨id, here, refused⟩, fun other next there hit => ?_⟩
  obtain ⟨lower, foundNext⟩ := reached.mem_preorder_iff.mp (List.mem_of_getElem? there)
  obtain ⟨index, rule, reason, listed, faults⟩ := (byRules.refusal?_ne_none_iff foundNext).mp hit
  have order := least (other, index) reason ⟨next, lower, rule, there, foundNext, listed, faults⟩
  rcases Prod.Lex.toLex_le_toLex.mp order with before | ⟨same, -⟩
  · exact Nat.le_of_lt before
  · exact Nat.le_of_eq same

private theorem ByRules.firstFailure_of_foundAt {position number : Nat} (byRules : tree.ByRules)
    (inOrder : FoundAt (refusal? tree.arena) error tree.preorder position)
    (here : tree.preorder[position]? = some id) (found : tree.node? id = some node)
    (inRules : FoundAt (fault? node) error (Attributed.rules node) number) :
    tree.FirstFailure (position, number) error := by
  obtain ⟨⟨rule, listed, fault⟩, leastRule⟩ := foundAt_iff_least.mp inRules
  obtain ⟨-, leastNode⟩ := foundAt_iff_least.mp inOrder
  have refuses := byRules.refuses id node found
  refine ⟨⟨id, node, rule, here, found, listed, (fault?_eq_some_iff refuses).mp fault⟩, ?_⟩
  rintro ⟨other, index⟩ reason ⟨next, lower, rule, there, foundNext, listed, faults⟩
  have refused :=
    (byRules.refusal?_ne_none_iff foundNext).mpr ⟨index, rule, reason, listed, faults⟩
  rw [Prod.Lex.toLex_le_toLex]
  rcases Nat.lt_or_eq_of_le (leastNode other next there refused) with before | same
  · exact .inl before
  · obtain rfl : position = other := same
    obtain rfl : id = next := Option.some.inj (here.symm.trans there)
    obtain rfl : node = lower := Option.some.inj (found.symm.trans foundNext)
    have hit := (fault?_eq_some_iff refuses).mpr faults
    exact .inr ⟨rfl, leastRule index rule listed (by simp [hit])⟩

private theorem ByRules.exists_validated_iff (byRules : tree.ByRules) (reached : tree.Reached) :
    (∃ validated, tree.validate.outcome = .ok validated) ↔
      ∀ id node, tree.node? id = some node → ∀ rule ∈ Attributed.rules node, Passes node rule := by
  have passed : (∃ validated, tree.validate.outcome = .ok validated) ↔
      tree.preorder.findSome? (refusal? tree.arena) = none := by
    rw [validate_outcome]
    cases tree.preorder.findSome? (refusal? tree.arena) <;> simp
  rw [passed, List.findSome?_eq_none_iff]
  constructor
  · intro free id node found rule listed
    have own := free id (reached.mem_preorder_iff.mpr ⟨node, found⟩)
    rw [byRules.refusal?_eq found, List.findSome?_eq_none_iff] at own
    exact fault?_eq_none_iff.mp (own rule listed)
  · intro passes id member
    obtain ⟨node, found⟩ := reached.mem_preorder_iff.mp member
    rw [byRules.refusal?_eq found, List.findSome?_eq_none_iff]
    exact fun rule listed => fault?_eq_none_iff.mpr (passes id node found rule listed)

private theorem ByRules.validate_eq_error_iff_firstFailure (byRules : tree.ByRules)
    (reached : tree.Reached) :
    tree.validate.outcome = .error error ↔ ∃ place, tree.FirstFailure place error := by
  rw [validate_outcome, unlessFound_ok_eq_error_iff, findSome?_eq_some_iff_exists_foundAt]
  constructor
  · rintro ⟨position, inOrder⟩
    obtain ⟨⟨id, here, refused⟩, -⟩ := foundAt_iff_least.mp inOrder
    obtain ⟨node, found⟩ := reached.mem_preorder_iff.mp (List.mem_of_getElem? here)
    rw [byRules.refusal?_eq found] at refused
    obtain ⟨number, inRules⟩ := findSome?_eq_some_iff_exists_foundAt.mp refused
    exact ⟨(position, number), byRules.firstFailure_of_foundAt inOrder here found inRules⟩
  · rintro ⟨place, first⟩
    exact ⟨place.1, byRules.foundAt_of_firstFailure reached first⟩

private theorem trail_validateNodes_of_foundAt {ids : List NodeId} {index : Nat}
    (found : FoundAt (refusal? arena) error ids index) :
    (validateNodes arena ids).trail =
      (ids.take (index + 1)).flatMap fun id => (validateNode arena id).trail := by
  induction found with
  | here refused =>
      rw [validateNodes, Run.bind_eq, Run.andThen_of_error (refusal?_eq_some_iff.mp refused)]
      simp
  | later passed _ ih =>
      rw [validateNodes, Run.bind_eq, Run.andThen_of_ok (refusal?_eq_none_iff.mp passed), ih,
        List.take_succ_cons, List.flatMap_cons]

private theorem trail_validate_of_foundAt {index : Nat}
    (found : FoundAt (refusal? tree.arena) error tree.preorder index) :
    tree.validate.trail =
      (tree.preorder.take (index + 1)).flatMap fun id => (validateNode tree.arena id).trail := by
  have failed : (validateNodes tree.arena tree.preorder).outcome = .error error := by
    rw [validateNodes_outcome, unlessFound_ok_eq_error_iff]
    exact findSome?_eq_some_iff_exists_foundAt.mpr ⟨index, found⟩
  rw [validate, Run.bind_eq, Run.andThen_of_error failed]
  exact trail_validateNodes_of_foundAt found

/-- **The verdict on a tree.** Validating a reached tree by the rule tables of its nodes succeeds
exactly when every node passes every rule, and leaves the tree as it is; otherwise it ends at the
least place where a rule is not passed, with the error of this place. -/
theorem Reached.verdict (reached : tree.Reached) (byRules : tree.ByRules) : tree.Verdict where
  passes := byRules.exists_validated_iff reached
  kept validated ok := by
    rw [validate_outcome] at ok
    obtain ⟨-, same⟩ := unlessFound_eq_ok_iff.mp ok
    rw [← Except.ok.inj same]
  fails error := byRules.validate_eq_error_iff_firstFailure reached
  stops place error first :=
    trail_validate_of_foundAt (byRules.foundAt_of_firstFailure reached first)

/-- A deployment with two relations, of which the second has a region that is not one, and below the
first, added last, a probe that lacks an attribute of its second rule. -/
def lackingProbe : Except Error (Tree Element .constructed) :=
  (ofRoot (.deployment
      { Deployment.unset with
        environment := some "prod"
        region := some "us-west-2"
        storageFormat := some "csv" })).addEach
    [ (.root, .relation { Relation.unset with relationName := some "sales.web.orders" }),
      (.root, .relation
        { Relation.unset with
          relationName := some "sales.web.items"
          region := some "nowhere" }),
      (.wrapping 1, .probe
        { label := some "late"
          values := Dictionary.ofList [("format", .text "json")]
          strict := true
          rules :=
            [ .mandatory "format" .storageFormat,
              .mandatory "size" .sqlIdentifier,
              .mandatory "format" .region ]
          inheritedNames := []
          keepsInherited := false
          interpolatedNames := [] }) ]

/-- The probe stands before the second relation in depth-first order and its second rule before its
third, so that the attribute it lacks is the first failure. -/
theorem verdict_lackingProbe :
    ∃ tree resolved, lackingProbe = .ok tree ∧
      (tree.resolve ⟨.standard, fun _ => none⟩).outcome = .ok resolved ∧
      resolved.Reached ∧ resolved.ByRules ∧ resolved.Verdict ∧
      ∃ place, resolved.FirstFailure place (.unknownAttribute "probe" "size") := by
  obtain ⟨tree, ok⟩ : ∃ tree, lackingProbe = .ok tree := ⟨_, rfl⟩
  have evaluated : (lackingProbe.bind fun tree =>
      (tree.resolve ⟨.standard, fun _ => none⟩).outcome.map fun resolved =>
        resolved.validate.outcome.map Tree.size) =
      .ok (.error (.unknownAttribute "probe" "size")) := by
    decide +kernel
  rw [ok] at evaluated
  obtain ⟨resolved, resolves, ends⟩ := map_eq_ok_iff.mp evaluated
  have failed : resolved.validate.outcome = .error (.unknownAttribute "probe" "size") := by
    cases outcome : resolved.validate.outcome with
    | error error => simpa [outcome, Except.map] using ends
    | ok validated => simp [outcome, Except.map] at ends
  have reached : resolved.Reached := .resolved (.built ((Built.root _).addEach ok)) resolves
  have byRules := byRules_of_element resolved
  have verdict := reached.verdict byRules
  exact ⟨tree, resolved, ok, resolves, reached, byRules, verdict, (verdict.fails _).mp failed⟩

end Tree

end DeployTree
