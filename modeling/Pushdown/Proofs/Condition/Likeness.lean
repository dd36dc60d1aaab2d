import Pushdown.Proofs.Rows.Filter
import Pushdown.Proofs.Text.Regex

/-!
# Conditions with a pattern

A condition with a pattern compiles if its column is declared, if the pattern as a value can be
compared under the type of the column, and if it is not too large. Nothing else is asked of the
pattern (`compile_pattern_eq_ok_iff`): every text is one.

Once compiled, the condition looks at the text of a cell, which is the cell itself if it is a text
and its JSON text otherwise. It keeps the row exactly if this text can be cut for the pattern, and
the negated condition keeps it exactly if not: `likes_iff_cuts`. The regular expression of the
pattern is found in the same texts.
-/

namespace Pushdown

variable {schema : Schema} {column p : String} {negated : Bool} {compiled : CompiledCondition}

/-- **A condition with a pattern**, or its negation. -/
def patternCondition (column p : String) (negated : Bool) : Condition :=
  ⟨if negated then .notLike else .like, column, .scalar (.string p)⟩

namespace CompiledCondition

/-- **Which conditions with a pattern compile**, and to what. -/
theorem compile_pattern_eq_ok_iff :
    compile schema (patternCondition column p negated) = .ok compiled ↔
      ∃ type, schema.resolve column = some type ∧ literalFits type (.string p) = true ∧
        Wildcard.size p ≤ patternSizeLimit ∧
        compiled = ⟨patternCondition column p negated, type, some p⟩ := by
  -- only for patterns is anything compiled, and both operators have one
  have hpattern : patternOf (patternCondition column p negated) = (acceptedPattern p).map some := by
    cases negated with
    | false | true => rfl
  have hvalues (type : ColumnType) :
      (patternCondition column p negated).operand.values.forM (checkLiteral column type) = .ok () ↔
        literalFits type (.string p) = true := by
    rw [forM_eq_ok_iff]
    exact List.forall_mem_singleton.trans checkLiteral_eq_ok_iff
  unfold compile
  rw [hpattern, bind_eq_ok_iff]
  simp only [Schema.require_eq_ok_iff]
  refine exists_congr fun type => and_congr_right fun _ => ?_
  rw [bind_eq_ok_iff]
  constructor
  · -- the checks in their order: the column, the value under its type, the size of the pattern
    rintro ⟨⟨⟩, hfits, h⟩
    obtain ⟨_, haccepted, h⟩ := bind_eq_ok_iff.1 h
    obtain ⟨pattern, hpattern, rfl⟩ := map_eq_ok_iff.1 haccepted
    obtain ⟨hsize, rfl⟩ := acceptedPattern_eq_ok_iff.1 hpattern
    exact ⟨(hvalues type).1 hfits, hsize, (Except.ok.inj h).symm⟩
  · rintro ⟨hfits, hsize, rfl⟩
    have haccepted := acceptedPattern_eq_ok_iff.2 ⟨hsize, rfl⟩
    exact ⟨(), (hvalues type).2 hfits,
      bind_eq_ok_iff.2 ⟨_, map_eq_ok_iff.2 ⟨p, haccepted, rfl⟩, rfl⟩⟩

/-- **A condition with a pattern, on a row**: it looks at the text of the cell. -/
theorem test_pattern (hcompile : compile schema (patternCondition column p negated) = .ok compiled)
    {row : Record} {cell : Json} (hcell : lookup row column = some cell)
    (hnull : cell.isNull = false) :
    compiled.test row = (Wildcard.test p cell.bareText != negated) := by
  obtain ⟨type, -, -, -, rfl⟩ := compile_pattern_eq_ok_iff.1 hcompile
  -- the cell is there, so the null that stands in for a missing one plays no part
  have hcellAt : cellAt row (patternCondition column p negated).column = cell := by
    change (lookup row column).getD .null = cell
    rw [hcell]
    rfl
  rw [test_eq_testCell, hcellAt, hnull, Bool.not_false, Bool.true_and]
  cases negated with
  | false => exact (Bool.bne_false _).symm
  | true => exact (Bool.bne_true _).symm

end CompiledCondition

open CompiledCondition in
/-- **A condition with a pattern keeps the rows whose text can be cut for the pattern**, and its
negation keeps the others. Both compile for the same columns and patterns: the column is declared,
the pattern can be compared under its type and is not too large. Every pattern has a regular
expression, which is found in exactly the texts that can be cut for the pattern. -/
theorem likes_iff_cuts (schema : Schema) (column p : String) :
    (∀ negated, IsOk (compile schema (patternCondition column p negated)) ↔
      Wildcard.size p ≤ patternSizeLimit ∧
        ∃ type, schema.resolve column = some type ∧ literalFits type (.string p) = true) ∧
    (∀ like notLike row cell text,
      compile schema (patternCondition column p false) = .ok like →
      compile schema (patternCondition column p true) = .ok notLike →
      lookup row column = some cell → cell.isNull = false → cell.HasText text →
      (like.test row = true ↔ Wildcard.Cuts p.toList text.toList) ∧
        (notLike.test row = true ↔ like.test row = false)) ∧
    ∃ r, Regex.read? (Wildcard.expression p.toList) = some r ∧
      ∀ text, r.FoundIn text ↔ Wildcard.Cuts p.toList text := by
  refine ⟨fun negated => ?_, fun like notLike row cell text hlike hnotLike hcell hnull htext => ?_,
    Wildcard.exists_read?_expression p.toList⟩
  · unfold IsOk
    simp only [compile_pattern_eq_ok_iff]
    constructor
    · rintro ⟨_, type, hresolve, hfits, hsize, -⟩
      exact ⟨hsize, type, hresolve, hfits⟩
    · rintro ⟨hsize, type, hresolve, hfits⟩
      exact ⟨_, type, hresolve, hfits, hsize, rfl⟩
  · -- the text of a cell is what it has, so the test of the text is that of the cell
    obtain rfl := Json.hasText_iff.1 htext
    have hkept : like.test row = Wildcard.test p cell.bareText := by
      rw [test_pattern hlike hcell hnull, Bool.bne_false]
    have hdropped : notLike.test row = !like.test row := by
      rw [test_pattern hnotLike hcell hnull, hkept, Bool.bne_true]
    rw [hdropped, Bool.not_eq_true', hkept, Wildcard.test_iff_matches, Wildcard.matches_iff_cuts]
    exact ⟨Iff.rfl, Iff.rfl⟩

/-! ### An instance -/

/-- Releases by their versions. -/
def releases : Schema := ⟨"releases", [.output "version" .text]⟩

/-- A release. -/
def release (version : Json) : Record := [("version", version)]

/-- Conditions on versions compile. -/
theorem compile_version (p : String) (negated : Bool) (h : Wildcard.size p ≤ patternSizeLimit) :
    CompiledCondition.compile releases (patternCondition "version" p negated) =
      .ok ⟨patternCondition "version" p negated, .text, some p⟩ :=
  CompiledCondition.compile_pattern_eq_ok_iff.2 ⟨.text, by decide +kernel, rfl, h, rfl⟩

/-- In the first pattern a dot is a dot and a parenthesis a parenthesis, and its runs take line
feeds. The second is looked for in the digits of a number. -/
theorem likes_iff_cuts_betas :
    (∃ like notLike,
      CompiledCondition.compile releases (patternCondition "version" "_.5%(b%" false) = .ok like ∧
      CompiledCondition.compile releases (patternCondition "version" "_.5%(b%" true) =
        .ok notLike ∧
      like.test (release "1.5\n(beta)") = true ∧
      Wildcard.Cuts "_.5%(b%".toList "1.5\n(beta)".toList ∧
      notLike.test (release "1x5\n(beta)") = true ∧
      ¬ Wildcard.Cuts "_.5%(b%".toList "1x5\n(beta)".toList) ∧
    ∃ like notLike,
      CompiledCondition.compile releases (patternCondition "version" "4_" false) = .ok like ∧
      CompiledCondition.compile releases (patternCondition "version" "4_" true) = .ok notLike ∧
      like.test (release (.ofInt 42)) = true ∧ notLike.test (release (.ofInt 42)) = false ∧
      Wildcard.Cuts "4_".toList "42".toList := by
  refine ⟨?_, ?_⟩
  · -- a text is looked at as it is, line feeds included
    have hcompile := fun negated => compile_version "_.5%(b%" negated (by decide +kernel)
    have hkept (version : String) :=
      (likes_iff_cuts releases "version" "_.5%(b%").2.1 _ _ (release version) version _
        (hcompile false) (hcompile true) (lookup_of_get? rfl) rfl (.itself version)
    have hmatches : CompiledCondition.test ⟨patternCondition "version" "_.5%(b%" false, .text,
        some "_.5%(b%"⟩ (release "1.5\n(beta)") = true := by decide +kernel
    have hdiffers : CompiledCondition.test ⟨patternCondition "version" "_.5%(b%" false, .text,
        some "_.5%(b%"⟩ (release "1x5\n(beta)") = false := by decide +kernel
    refine ⟨_, _, hcompile false, hcompile true, hmatches, (hkept _).1.1 hmatches,
      (hkept _).2.2 hdiffers, fun hcuts => ?_⟩
    exact absurd ((hkept _).1.2 hcuts) (by rw [hdiffers]; exact Bool.false_ne_true)
  · -- a number is looked at by its JSON text
    have hcompile := fun negated => compile_version "4_" negated (by decide +kernel)
    have htext : (Json.ofInt 42).HasText "42" := .json nofun
    obtain ⟨hkept, hdropped⟩ :=
      (likes_iff_cuts releases "version" "4_").2.1 _ _ (release (.ofInt 42)) (.ofInt 42) "42"
        (hcompile false) (hcompile true) (lookup_of_get? rfl) rfl htext
    have hmatches : CompiledCondition.test ⟨patternCondition "version" "4_" false, .text,
        some "4_"⟩ (release (.ofInt 42)) = true := by decide +kernel
    refine ⟨_, _, hcompile false, hcompile true, hmatches, ?_, hkept.1 hmatches⟩
    rw [← Bool.not_eq_true, hdropped, hmatches]
    exact Bool.noConfusion

end Pushdown
