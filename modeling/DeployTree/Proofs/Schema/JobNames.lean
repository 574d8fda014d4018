import DeployTree.Proofs.Pattern.Names
import DeployTree.Schema.Relation
import Mathlib.Data.List.Forall2

/-! # Names of jobs

The name of a job is a full name with low lines in place of the dots. It is an identifier unless too
much of it follows its first letters: the rest of the environment, a low line and the name of three
parts (`DeployTree.Relation.accepts_jobName_iff`). The low lines that were dots cannot be told from
those that were there before, so two full names give one job exactly when they differ only in this
(`DeployTree.Relation.jobName_eq_iff`). Names of three parts whose low lines all come after their
dots keep their jobs apart (`DeployTree.Relation.jobName_ne_of_dotsFirst`).
-/

namespace DeployTree.Relation

open Pattern (sqlIdentifier threePartName)

/-- The character of a job name that stands for one of the full name. -/
def jobChar (c : Char) : Char := if c = '.' then '_' else c

/-- The number of characters that follow the first letters of a job name. -/
def jobNameTail (environment name : String) : Nat :=
  (environment.toList.dropWhile Char.isAlpha).length + 1 + name.length

/-- Whether two characters are the same but for a dot in the place of a low line. -/
def AlikeChar (c d : Char) : Prop := c = d ∨ (c = '.' ∧ d = '_') ∨ (c = '_' ∧ d = '.')

/-- Whether two full names are the same but for dots in the places of low lines. -/
def Alike (first second : String) : Prop :=
  List.Forall₂ AlikeChar first.toList second.toList

/-- Whether no dot of a name follows a low line. -/
def DotsFirst (name : String) : Prop :=
  ∀ front back, name.toList = front ++ '_' :: back → '.' ∉ back

variable {environment name other : String} {c d : Char}

private theorem toList_jobName (fullName : String) :
    (jobName fullName).toList = fullName.toList.map jobChar :=
  String.toList_ofList

private theorem jobChar_of_isWordChar (word : Text.isWordChar c = true) : jobChar c = c := by
  refine if_neg ?_
  rintro rfl
  rw [Text.isWordChar_dot] at word
  cases word

private theorem map_jobChar_of_isWordChar {chars : List Char}
    (word : ∀ c ∈ chars, Text.isWordChar c = true) : chars.map jobChar = chars :=
  (List.map_congr_left fun c member => jobChar_of_isWordChar (word c member)).trans
    (List.map_id chars)

private theorem jobChar_eq_iff : jobChar c = jobChar d ↔ AlikeChar c d := by
  unfold jobChar AlikeChar
  by_cases dot : c = '.'
  · by_cases otherDot : d = '.'
    · simp [dot, otherDot]
    · simp [dot, otherDot, eq_comm]
  · by_cases otherDot : d = '.'
    · simp [dot, otherDot]
    · simp [dot, otherDot]

/-- The name of a job starts with the environment, which has no dots. -/
theorem toList_jobName_append (environmentFits : sqlIdentifier.accepts environment = true) :
    (jobName (environment ++ "." ++ name)).toList =
      environment.toList ++ '_' :: name.toList.map jobChar := by
  obtain ⟨-, word, -⟩ := Pattern.accepts_sqlIdentifier_iff.mp environmentFits
  rw [toList_jobName, String.toList_append, String.toList_append, List.map_append, List.map_append,
    map_jobChar_of_isWordChar word, List.append_assoc]
  rfl

/-- What follows the first letters of a job name starts in the environment, or with the low line
after it. -/
theorem length_dropWhile_jobName (environmentFits : sqlIdentifier.accepts environment = true) :
    ((jobName (environment ++ "." ++ name)).toList.dropWhile Char.isAlpha).length =
      jobNameTail environment name := by
  have after : (environment.toList ++ '_' :: name.toList.map jobChar).dropWhile Char.isAlpha =
      environment.toList.dropWhile Char.isAlpha ++ '_' :: name.toList.map jobChar := by
    rw [List.dropWhile_append]
    split
    · rename_i letters
      rw [List.isEmpty_iff.mp letters]
      exact List.dropWhile_cons_of_neg (by decide)
    · rfl
  rw [toList_jobName_append environmentFits, after, jobNameTail, List.length_append,
    List.length_cons, List.length_map, String.length_toList]
  omega

private theorem isWordChar_of_mem_jobName
    (environmentFits : sqlIdentifier.accepts environment = true)
    (nameFits : threePartName.accepts name = true) :
    ∀ c ∈ (jobName (environment ++ "." ++ name)).toList, Text.isWordChar c = true := by
  obtain ⟨-, word, -⟩ := Pattern.accepts_sqlIdentifier_iff.mp environmentFits
  obtain ⟨domain, schema, own, split, domainFits, schemaFits, ownFits⟩ :=
    Pattern.accepts_threePartName_iff.mp nameFits
  obtain ⟨-, domainWord⟩ := Pattern.matches_segment_iff.mp domainFits
  obtain ⟨-, schemaWord⟩ := Pattern.matches_segment_iff.mp schemaFits
  obtain ⟨-, ownWord⟩ := Pattern.matches_segment_iff.mp ownFits
  have line : Text.isWordChar '_' = true := by decide
  have chars : name.toList.map jobChar = domain ++ '_' :: (schema ++ '_' :: own) := by
    rw [split, List.map_append, List.map_cons, List.map_append, List.map_cons,
      map_jobChar_of_isWordChar domainWord, map_jobChar_of_isWordChar schemaWord,
      map_jobChar_of_isWordChar ownWord]
    rfl
  rw [toList_jobName_append environmentFits, chars]
  simp only [List.forall_mem_append, List.forall_mem_cons]
  exact ⟨word, line, domainWord, line, schemaWord, line, ownWord⟩

/-- **Acceptable jobs.** The job of a relation whose environment and name fit has a name that fits
exactly when no more than 127 characters of it follow its first letters. -/
theorem accepts_jobName_iff (environmentFits : sqlIdentifier.accepts environment = true)
    (nameFits : threePartName.accepts name = true) :
    sqlIdentifier.accepts (jobName (environment ++ "." ++ name)) = true ↔
      jobNameTail environment name ≤ 127 := by
  obtain ⟨starts, -⟩ := Pattern.accepts_sqlIdentifier_iff.mp environmentFits
  have jobStarts :
      (jobName (environment ++ "." ++ name)).toList.head?.any Char.isAlpha = true := by
    rw [toList_jobName_append environmentFits, List.head?_append]
    cases first : environment.toList.head? with
    | none => simp [first] at starts
    | some c => simpa [first] using starts
  have word := isWordChar_of_mem_jobName environmentFits nameFits
  rw [Pattern.accepts_sqlIdentifier_iff, length_dropWhile_jobName environmentFits]
  exact ⟨fun fits => fits.2.2, fun short => ⟨jobStarts, word, short⟩⟩

/-- **One job for two names.** Two full names give one job exactly when they are the same but for
dots in the places of low lines. -/
theorem jobName_eq_iff {first second : String} :
    jobName first = jobName second ↔ Alike first second := by
  rw [← String.toList_inj, toList_jobName, toList_jobName, Alike, ← List.forall₂_eq_eq_eq,
    List.forall₂_map_left_iff, List.forall₂_map_right_iff]
  simp only [jobChar_eq_iff]

/-- Low lines in front of a dot leave it open which names a job stands for. -/
example : jobName "prod.a_b.c.d" = jobName "prod.a.b_c.d" := by
  decide

/-- Where no dot follows a low line, the number of dots tells which low lines were dots. -/
theorem eq_of_forall₂_alikeChar {first second : List Char}
    (alike : List.Forall₂ AlikeChar first second)
    (count : first.count '.' = second.count '.')
    (firstOrdered : ∀ front back, first = front ++ '_' :: back → '.' ∉ back)
    (secondOrdered : ∀ front back, second = front ++ '_' :: back → '.' ∉ back) :
    first = second := by
  induction alike with
  | nil => rfl
  | @cons c d first second same alike ih =>
      rcases same with rfl | ⟨rfl, rfl⟩ | ⟨rfl, rfl⟩
      · have later : first = second := by
          refine ih ?_ ?_ ?_
          · simpa [List.count_cons] using count
          · exact fun front back split => firstOrdered (c :: front) back (by rw [split]; rfl)
          · exact fun front back split => secondOrdered (c :: front) back (by rw [split]; rfl)
        rw [later]
      · -- The second name has no dot any more, so it has fewer of them.
        have none := List.count_eq_zero.mpr (secondOrdered [] second rfl)
        simp [none] at count
      · have none := List.count_eq_zero.mpr (firstOrdered [] first rfl)
        simp [none] at count

private theorem count_dot_of_accepts (nameFits : threePartName.accepts name = true) :
    name.toList.count '.' = 2 := by
  obtain ⟨domain, schema, own, split, domainFits, schemaFits, ownFits⟩ :=
    Pattern.accepts_threePartName_iff.mp nameFits
  have free {part : List Char} (fits : Regex.Matches Pattern.segment part) :
      part.count '.' = 0 := by
    refine List.count_eq_zero.mpr fun inside => ?_
    have word := (Pattern.matches_segment_iff.mp fits).2 '.' inside
    rw [Text.isWordChar_dot] at word
    cases word
  rw [split, List.count_append, List.count_cons_self, List.count_append, List.count_cons_self,
    free domainFits, free schemaFits, free ownFits]

/-- **Jobs of their own.** In one environment, names of three parts whose low lines come after their
dots have different jobs. -/
theorem jobName_ne_of_dotsFirst (environment : String)
    (nameFits : threePartName.accepts name = true) (otherFits : threePartName.accepts other = true)
    (nameOrdered : DotsFirst name) (otherOrdered : DotsFirst other)
    (differ : environment ++ "." ++ name ≠ environment ++ "." ++ other) :
    jobName (environment ++ "." ++ name) ≠ jobName (environment ++ "." ++ other) := by
  intro same
  have chars : name.toList.map jobChar = other.toList.map jobChar := by
    have whole := congrArg String.toList same
    simpa [toList_jobName] using whole
  have alike : Alike name other := by
    apply jobName_eq_iff.mp
    rw [← String.toList_inj, toList_jobName, toList_jobName, chars]
  have count : name.toList.count '.' = other.toList.count '.' :=
    (count_dot_of_accepts nameFits).trans (count_dot_of_accepts otherFits).symm
  apply differ
  rw [String.toList_inj.mp (eq_of_forall₂_alikeChar alike count nameOrdered otherOrdered)]

end DeployTree.Relation
