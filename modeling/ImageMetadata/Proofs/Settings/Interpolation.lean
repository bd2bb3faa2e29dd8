import ImageMetadata.Ini

/-!
# References between values

A value of a settings file may refer to others, which may refer to others again. The rules by which
references are replaced give a value exactly the text that is read for it; if they give none, the
value is refused because of its references, and for no other reason.
-/

namespace ImageMetadata.Ini

variable {ini : Ini} {part option : List Char}

/-- A section has an option, or all sections have it. -/
def Provides (ini : Ini) (part option : List Char) : Prop :=
  ∃ e ∈ ini.entries, (e.part = part ∨ e.part = defaultPart) ∧ e.option = option

theorem isSome_written?_iff : (ini.written? part option).isSome ↔ ini.Provides part option := by
  unfold written? Provides
  simp only [Option.isSome_map, Option.isSome_or, Bool.or_eq_true, List.find?_isSome,
    decide_eq_true_eq]
  constructor
  · rintro (⟨e, member, here, same⟩ | ⟨e, member, here, same⟩)
    · exact ⟨e, member, .inl here, same⟩
    · exact ⟨e, member, .inr here, same⟩
  · rintro ⟨e, member, here | here, same⟩
    · exact .inl ⟨e, member, here, same⟩
    · exact .inr ⟨e, member, here, same⟩

theorem written?_eq_none_iff : ini.written? part option = none ↔ ¬ ini.Provides part option := by
  rw [← isSome_written?_iff, Option.not_isSome_iff_eq_none]

/-- The rules by which pieces make up a text. A value without a percent sign stands for itself; in
any other one the references are replaced first, as long as they are not too deep. -/
inductive Expands (ini : Ini) (part : List Char) : Nat → List Piece → List Char → Prop
  | nil {depth : Nat} : Expands ini part depth [] []
  | char {depth : Nat} {c : Char} {rest : List Piece} {text : List Char}
      (later : Expands ini part depth rest text) :
      Expands ini part depth (.char c :: rest) (c :: text)
  | plain {depth : Nat} {option value text : List Char} {rest : List Piece}
      (given : ini.written? part option = some value) (final : '%' ∉ value)
      (later : Expands ini part depth rest text) :
      Expands ini part depth (.reference option :: rest) (value ++ text)
  | nested {depth : Nat} {option value inner text : List Char} {rest : List Piece}
      (given : ini.written? part option = some value) (refers : '%' ∈ value)
      (inside : Expands ini part depth (pieces value) inner)
      (later : Expands ini part (depth + 1) rest text) :
      Expands ini part (depth + 1) (.reference option :: rest) (inner ++ text)

/-- The problems of references. -/
def IsReferenceProblem (p : Problem) : Prop :=
  p = .interpolationSyntax ∨ p = .interpolationMissing ∨ p = .interpolationDepth

theorem IsReferenceProblem.kind_ne {p : Problem} (h : IsReferenceProblem p) : p.kind ≠ .value := by
  rcases h with rfl | rfl | rfl <;> decide

/-- Replacing references comes to a text that follows from the rules, or to a problem of them. -/
theorem replace_cases (ini : Ini) (part : List Char) (depth : Nat) (list : List Piece) :
    (∃ text, ini.replace part depth list = .ok text ∧ Expands ini part depth list text) ∨
      ∃ p, ini.replace part depth list = .error p ∧ IsReferenceProblem p := by
  induction depth, list using replace.induct ini part with
  | case1 depth =>
      rw [replace]
      exact .inl ⟨[], rfl, .nil⟩
  | case2 depth c rest ih =>
      rw [replace]
      rcases ih with ⟨text, replaced, expands⟩ | ⟨p, failed, problem⟩
      · rw [replaced]
        exact .inl ⟨c :: text, rfl, .char expands⟩
      · rw [failed]
        exact .inr ⟨p, rfl, problem⟩
  | case3 depth rest =>
      rw [replace]
      exact .inr ⟨_, rfl, .inl rfl⟩
  | case4 depth option rest missing =>
      rw [replace, missing]
      exact .inr ⟨_, rfl, .inr (.inl rfl)⟩
  | case5 option rest value given refers =>
      rw [replace, given]
      dsimp only
      rw [if_pos refers]
      exact .inr ⟨_, rfl, .inr (.inr rfl)⟩
  | case6 option rest value given refers depth later inside =>
      rw [replace, given]
      dsimp only
      rw [if_pos refers]
      rcases inside with ⟨inner, replaced, expands⟩ | ⟨p, failed, problem⟩
      · rw [replaced]
        rcases later with ⟨text, replaced, others⟩ | ⟨p, failed, problem⟩
        · rw [replaced]
          exact .inl ⟨inner ++ text, rfl, .nested given (by simpa using refers) expands others⟩
        · rw [failed]
          exact .inr ⟨p, rfl, problem⟩
      · rw [failed]
        exact .inr ⟨p, rfl, problem⟩
  | case7 depth option rest value given final later =>
      rw [replace, given]
      dsimp only
      rw [if_neg final]
      rcases later with ⟨text, replaced, others⟩ | ⟨p, failed, problem⟩
      · rw [replaced]
        exact .inl ⟨value ++ text, rfl, .plain given (by simpa using final) others⟩
      · rw [failed]
        exact .inr ⟨p, rfl, problem⟩

/-- What follows from the rules is what references are replaced by. -/
theorem Expands.replace_eq {depth : Nat} {list : List Piece} {text : List Char}
    (h : Expands ini part depth list text) : ini.replace part depth list = .ok text := by
  induction h with
  | nil => rw [replace]
  | char _ ih =>
      rw [replace, ih]
      rfl
  | plain given final _ ih =>
      rw [replace, given]
      dsimp only
      rw [if_neg (by simpa using final), ih]
      rfl
  | nested given refers _ _ inner ih =>
      rw [replace, given]
      dsimp only
      rw [if_pos (by simpa using refers), inner, ih]
      rfl

/-- In a section, an option stands for a text. -/
def Gives (ini : Ini) (part option text : List Char) : Prop :=
  ∃ value, ini.written? part option = some value ∧
    Expands ini part depthLimit (pieces value) text

/-- An option is given a value whose references cannot be replaced. -/
def Misrefers (ini : Ini) (part option : List Char) : Prop :=
  ini.Provides part option ∧ ∀ text, ¬ ini.Gives part option text

theorem Gives.value?_eq {text : List Char} (h : ini.Gives part option text) :
    ini.value? part option = .ok (some text) := by
  obtain ⟨value, given, expands⟩ := h
  rw [value?, given]
  dsimp only
  rw [expands.replace_eq]
  rfl

/-- An option stands for at most one text. -/
theorem Gives.unique {text text' : List Char} (h : ini.Gives part option text)
    (h' : ini.Gives part option text') : text = text' := by
  have same := h.value?_eq.symm.trans h'.value?_eq
  cases same
  rfl

theorem value?_of_not_provides (h : ¬ ini.Provides part option) :
    ini.value? part option = .ok none := by
  rw [value?, written?_eq_none_iff.2 h]

/-- A value is missing, or it is found, or it is refused because of its references. -/
theorem value?_cases (ini : Ini) (part option : List Char) :
    (ini.value? part option = .ok none ∧ ¬ ini.Provides part option) ∨
      (∃ text, ini.value? part option = .ok (some text) ∧ ini.Gives part option text) ∨
      ∃ p, ini.value? part option = .error p ∧ ini.Misrefers part option ∧
        IsReferenceProblem p := by
  cases given : ini.written? part option with
  | none =>
      have missing := written?_eq_none_iff.1 given
      exact .inl ⟨value?_of_not_provides missing, missing⟩
  | some value =>
      rcases replace_cases ini part depthLimit (pieces value) with
        ⟨text, _, expands⟩ | ⟨p, failed, problem⟩
      · have gives : ini.Gives part option text := ⟨value, given, expands⟩
        exact .inr (.inl ⟨text, gives.value?_eq, gives⟩)
      · have refused : ini.value? part option = .error p := by
          rw [value?, given]
          dsimp only
          rw [failed]
          rfl
        refine .inr (.inr ⟨p, refused, ⟨?_, fun text gives => ?_⟩, problem⟩)
        · rw [← isSome_written?_iff, given, Option.isSome_some]
        · cases refused.symm.trans gives.value?_eq

end ImageMetadata.Ini
