import ImageMetadata.Settings
import ImageMetadata.Proofs.Settings.Interpolation

/-!
# Settings that are read

Each of the two reading options may be missing from a settings file, stand for a value, stand for a
text that makes no sense, or refer to values that cannot be found. Where both are missing or stand
for values, these are the settings. A text that makes no sense costs the whole section, with one
notice. A reference that cannot be replaced is a failure instead, unless a text before it makes no
sense.
-/

namespace ImageMetadata.Settings

open Ini (IsReferenceProblem)

/-- A text stands for a truth value if it is one of eight, in capital or small letters. -/
theorem boolean_eq_ok_iff {text : List Char} {b : Bool} :
    boolean text = .ok b ↔ (String.ofList (Text.lower text), b) ∈ booleans := by
  unfold boolean
  generalize String.ofList (Text.lower text) = s
  constructor
  · intro h
    split at h
    · rename_i found
      obtain ⟨before, after, table, _⟩ := List.lookup_eq_some_iff.1 found
      cases h
      rw [table]
      exact List.mem_append_right _ List.mem_cons_self
    · cases h
  · intro member
    simp only [booleans, List.mem_cons, Prod.mk.injEq, List.not_mem_nil, or_false] at member
    rcases member with ⟨rfl, rfl⟩ | ⟨rfl, rfl⟩ | ⟨rfl, rfl⟩ | ⟨rfl, rfl⟩ | ⟨rfl, rfl⟩ |
      ⟨rfl, rfl⟩ | ⟨rfl, rfl⟩ | ⟨rfl, rfl⟩ <;> rfl

/-- A text stands for a depth limit if it is an integer of at least 1. -/
theorem depth_eq_ok_iff {text : List Char} {n : Int} :
    depth text = .ok n ↔ Text.IntegerLiteral.read text = .ok n ∧ 1 ≤ n := by
  unfold depth
  cases Text.IntegerLiteral.read text with
  | error fault => simp
  | ok m =>
      by_cases small : m < 1
      · simp only [if_pos small]
        refine ⟨nofun, ?_⟩
        rintro ⟨same, large⟩
        cases same
        omega
      · simp only [if_neg small, Except.ok.injEq]
        refine ⟨?_, fun h => h.1⟩
        rintro rfl
        exact ⟨rfl, by omega⟩

theorem kind_of_boolean {text : List Char} {p : Problem} (h : boolean text = .error p) :
    p.kind = .value := by
  unfold boolean at h
  split at h
  · cases h
  · cases h
    rfl

theorem kind_of_depth {text : List Char} {p : Problem} (h : depth text = .error p) :
    p.kind = .value := by
  unfold depth at h
  split at h
  · cases h
    rfl
  · split at h
    · cases h
      rfl
    · cases h

section Option

variable {α : Type} {ini : Ini} {option : List Char} {convert : List Char → Except Problem α}

/-- The section says nothing about an option, or that it has a value. -/
inductive Tells (ini : Ini) (option : List Char) (convert : List Char → Except Problem α) :
    Option α → Prop
  | nothing (missing : ¬ ini.Provides part option) : Tells ini option convert none
  | value {text : List Char} {a : α} (given : ini.Gives part option text)
      (sense : convert text = .ok a) : Tells ini option convert (some a)

/-- The section gives an option a text that makes no sense. -/
def Misreads (ini : Ini) (option : List Char) (convert : List Char → Except Problem α)
    (p : Problem) : Prop :=
  ∃ text, ini.Gives part option text ∧ convert text = .error p

/-- The value of an option, if there is one. -/
def fetch (ini : Ini) (option : List Char) (convert : List Char → Except Problem α) :
    Except Problem (Option α) := do
  (← ini.value? part option).mapM convert

theorem Tells.fetch_eq {a : Option α} (h : Tells ini option convert a) :
    fetch ini option convert = .ok a := by
  unfold fetch
  cases h with
  | nothing missing =>
      rw [Ini.value?_of_not_provides missing]
      rfl
  | value given sense =>
      rw [given.value?_eq]
      exact congrArg (Except.map some) sense

theorem Misreads.fetch_eq {p : Problem} (h : Misreads ini option convert p) :
    fetch ini option convert = .error p := by
  obtain ⟨text, given, senseless⟩ := h
  unfold fetch
  rw [given.value?_eq]
  exact congrArg (Except.map some) senseless

theorem exists_fetch_eq (convert : List Char → Except Problem α)
    (h : ini.Misrefers part option) :
    ∃ p, fetch ini option convert = .error p ∧ IsReferenceProblem p := by
  rcases ini.value?_cases part option with
    ⟨_, missing⟩ | ⟨text, _, gives⟩ | ⟨p, failed, _, problem⟩
  · exact absurd h.1 missing
  · exact absurd gives (h.2 text)
  · refine ⟨p, ?_, problem⟩
    unfold fetch
    rw [failed]
    rfl

/-- The section says something about an option that makes sense, that makes none, or that refers to
something else. -/
theorem tells_or (ini : Ini) (option : List Char) (convert : List Char → Except Problem α) :
    (∃ a, Tells ini option convert a) ∨ (∃ p, Misreads ini option convert p) ∨
      ini.Misrefers part option := by
  rcases ini.value?_cases part option with
    ⟨_, missing⟩ | ⟨text, _, gives⟩ | ⟨_, _, misrefers, _⟩
  · exact .inl ⟨none, .nothing missing⟩
  · cases sense : convert text with
    | ok a => exact .inl ⟨some a, .value gives sense⟩
    | error p => exact .inr (.inl ⟨p, text, gives, sense⟩)
  · exact .inr (.inr misrefers)

end Option

variable {ini : Ini}

/-- What the section says about the strictness. -/
def TellsStrict (ini : Ini) (strict : Option Bool) : Prop :=
  Tells ini "strict".toList boolean strict

/-- What the section says about the depth limit. -/
def TellsDepth (ini : Ini) (maxDepth : Option Int) : Prop :=
  Tells ini "max_depth".toList depth maxDepth

/-- The first text in the section that is no value makes no sense. -/
def MakesNoSense (ini : Ini) (p : Problem) : Prop :=
  Misreads ini "strict".toList boolean p ∨
    (∃ strict, TellsStrict ini strict) ∧ Misreads ini "max_depth".toList depth p

/-- The first text in the section that is no value has references that cannot be replaced. -/
def Misleads (ini : Ini) : Prop :=
  ini.Misrefers part "strict".toList ∨
    (∃ strict, TellsStrict ini strict) ∧ ini.Misrefers part "max_depth".toList

theorem MakesNoSense.kind_eq {p : Problem} (h : MakesNoSense ini p) : p.kind = .value := by
  rcases h with ⟨_, _, senseless⟩ | ⟨_, _, _, senseless⟩
  · exact kind_of_boolean senseless
  · exact kind_of_depth senseless

theorem ofIni_eq (ini : Ini) :
    ofIni ini = do
      let strict ← fetch ini "strict".toList boolean
      let maxDepth ← fetch ini "max_depth".toList depth
      return ⟨strict, maxDepth⟩ := by
  unfold ofIni fetch
  simp only [bind_assoc]

theorem ofIni_of_tells {strict : Option Bool} {maxDepth : Option Int} (hs : TellsStrict ini strict)
    (hd : TellsDepth ini maxDepth) : ofIni ini = .ok ⟨strict, maxDepth⟩ := by
  rw [ofIni_eq, hs.fetch_eq, hd.fetch_eq]
  rfl

theorem MakesNoSense.ofIni_eq {p : Problem} (h : MakesNoSense ini p) : ofIni ini = .error p := by
  rw [Settings.ofIni_eq]
  rcases h with misread | ⟨⟨strict, told⟩, misread⟩
  · rw [misread.fetch_eq]
    rfl
  · rw [told.fetch_eq, misread.fetch_eq]
    rfl

theorem Misleads.exists_ofIni_eq (h : Misleads ini) :
    ∃ p, ofIni ini = .error p ∧ IsReferenceProblem p := by
  rw [Settings.ofIni_eq]
  rcases h with misrefers | ⟨⟨strict, told⟩, misrefers⟩
  · obtain ⟨p, failed, problem⟩ := exists_fetch_eq boolean misrefers
    rw [failed]
    exact ⟨p, rfl, problem⟩
  · obtain ⟨p, failed, problem⟩ := exists_fetch_eq depth misrefers
    rw [told.fetch_eq, failed]
    exact ⟨p, rfl, problem⟩

/-- The section holds values only, or something in it comes first that does not make sense or that
cannot be replaced. -/
theorem section_cases (ini : Ini) :
    (∃ strict maxDepth, TellsStrict ini strict ∧ TellsDepth ini maxDepth) ∨
      (∃ p, MakesNoSense ini p) ∨ Misleads ini := by
  rcases tells_or ini "strict".toList boolean with told | ⟨p, misread⟩ | misrefers
  · rcases tells_or ini "max_depth".toList depth with ⟨maxDepth, told'⟩ | ⟨p, misread⟩ | misrefers
    · obtain ⟨strict, told⟩ := told
      exact .inl ⟨strict, maxDepth, told, told'⟩
    · exact .inr (.inl ⟨p, .inr ⟨told, misread⟩⟩)
    · exact .inr (.inr (.inr ⟨told, misrefers⟩))
  · exact .inr (.inl ⟨p, .inl misread⟩)
  · exact .inr (.inr (.inl misrefers))

/-- Each of some settings is what the text of its option stands for. -/
structure AreGiven (ini : Ini) (settings : Settings) : Prop where
  strict {b : Bool} : settings.strict = some b →
    ∃ text, ini.Gives part "strict".toList text ∧ (String.ofList (Text.lower text), b) ∈ booleans
  maxDepth {n : Int} : settings.maxDepth = some n →
    ∃ text, ini.Gives part "max_depth".toList text ∧ Text.IntegerLiteral.read text = .ok n ∧ 1 ≤ n

namespace AreGiven

theorem none : AreGiven ini ⟨Option.none, Option.none⟩ := ⟨nofun, nofun⟩

theorem of_tells {strict : Option Bool} {maxDepth : Option Int} (hs : TellsStrict ini strict)
    (hd : TellsDepth ini maxDepth) : AreGiven ini ⟨strict, maxDepth⟩ where
  strict := by
    rintro b rfl
    obtain _ | ⟨given, sense⟩ := hs
    exact ⟨_, given, boolean_eq_ok_iff.1 sense⟩
  maxDepth := by
    rintro n rfl
    obtain _ | ⟨given, sense⟩ := hd
    exact ⟨_, given, depth_eq_ok_iff.1 sense⟩

end AreGiven

variable {path : String} {text : List Char}

theorem read_of_not_mem (parsed : Ini.read text = .ok ini) (absent : part ∉ ini.parts) :
    read path text = pure ⟨none, none⟩ := by
  unfold read
  rw [parsed, Outcome.ofExcept_ok, pure_bind, if_pos (by simpa using absent)]

theorem read_of_mem (parsed : Ini.read text = .ok ini) (present : part ∈ ini.parts) :
    read path text =
      match ofIni ini with
      | .ok settings => pure settings
      | .error p =>
        if p.kind = .value then ⟨[.notice (.ignoredSettings path p)], .ok ⟨none, none⟩⟩
        else Outcome.fail p := by
  unfold read
  rw [parsed, Outcome.ofExcept_ok, pure_bind, if_neg (by simpa using present)]
  rfl

theorem read_of_tells {strict : Option Bool} {maxDepth : Option Int}
    (parsed : Ini.read text = .ok ini) (present : part ∈ ini.parts) (hs : TellsStrict ini strict)
    (hd : TellsDepth ini maxDepth) : read path text = pure ⟨strict, maxDepth⟩ := by
  rw [read_of_mem parsed present, ofIni_of_tells hs hd]

theorem read_of_makesNoSense {p : Problem} (parsed : Ini.read text = .ok ini)
    (present : part ∈ ini.parts) (h : MakesNoSense ini p) :
    read path text = ⟨[.notice (.ignoredSettings path p)], .ok ⟨none, none⟩⟩ := by
  rw [read_of_mem parsed present, h.ofIni_eq]
  dsimp only
  rw [if_pos h.kind_eq]

theorem exists_read_eq_fail (parsed : Ini.read text = .ok ini) (present : part ∈ ini.parts)
    (h : Misleads ini) (path : String) :
    ∃ p, read path text = Outcome.fail p ∧ IsReferenceProblem p := by
  obtain ⟨p, failed, problem⟩ := h.exists_ofIni_eq
  refine ⟨p, ?_, problem⟩
  rw [read_of_mem parsed present, failed]
  dsimp only
  rw [if_neg problem.kind_ne]

/-- What a file that was read into sections and options comes to. -/
theorem read_cases (parsed : Ini.read text = .ok ini) (path : String) :
    (∃ settings, read path text = pure settings ∧ AreGiven ini settings) ∨
      (∃ p, read path text = ⟨[.notice (.ignoredSettings path p)], .ok ⟨none, none⟩⟩) ∨
      ∃ p, read path text = Outcome.fail p ∧ IsReferenceProblem p ∧ part ∈ ini.parts ∧
        Misleads ini := by
  by_cases present : part ∈ ini.parts
  · rcases section_cases ini with ⟨strict, maxDepth, hs, hd⟩ | ⟨p, senseless⟩ | misleads
    · exact .inl ⟨_, read_of_tells parsed present hs hd, .of_tells hs hd⟩
    · exact .inr (.inl ⟨p, read_of_makesNoSense parsed present senseless⟩)
    · obtain ⟨p, failed, problem⟩ := exists_read_eq_fail parsed present misleads path
      exact .inr (.inr ⟨p, failed, problem, present, misleads⟩)
  · exact .inl ⟨_, read_of_not_mem parsed present, .none⟩

/-- Only a section that misleads is a failure. -/
theorem of_read_error {p : Problem} (parsed : Ini.read text = .ok ini)
    (failed : (read path text).result = .error p) :
    read path text = Outcome.fail p ∧ IsReferenceProblem p ∧ part ∈ ini.parts ∧ Misleads ini := by
  rcases read_cases parsed path with ⟨_, same, _⟩ | ⟨_, same⟩ | ⟨q, same, rest⟩
  · rw [same] at failed
    cases failed
  · rw [same] at failed
    cases failed
  · rw [same] at failed ⊢
    cases failed
    exact ⟨rfl, rest⟩

theorem areGiven_of_read {settings : Settings} (parsed : Ini.read text = .ok ini)
    (done : (read path text).result = .ok settings) : AreGiven ini settings := by
  rcases read_cases parsed path with ⟨_, same, given⟩ | ⟨_, same⟩ | ⟨_, same, _⟩
  · rw [same] at done
    cases done
    exact given
  · rw [same] at done
    cases done
    exact .none
  · rw [same] at done
    cases done

/-- No settings that are read have a depth limit below 1. -/
theorem one_le_of_read {settings : Settings} {n : Int}
    (done : (read path text).result = .ok settings) (given : settings.maxDepth = some n) :
    1 ≤ n := by
  cases parsed : Ini.read text with
  | error p =>
      rw [read, parsed] at done
      cases done
  | ok ini =>
      obtain ⟨_, _, _, large⟩ := (areGiven_of_read parsed done).maxDepth given
      exact large

/-- How a file that was read into sections and options is taken. -/
structure IsTakenAs (path : String) (ini : Ini) (x : Outcome Settings) : Prop where
  /-- Without the section there are no settings. -/
  of_absent : part ∉ ini.parts → x = pure ⟨none, none⟩
  /-- Values are taken as they are, without a notice. -/
  of_tells {strict : Option Bool} {maxDepth : Option Int} :
    part ∈ ini.parts → TellsStrict ini strict → TellsDepth ini maxDepth →
    x = pure ⟨strict, maxDepth⟩
  /-- A text that makes no sense costs all settings, with one notice. -/
  of_makesNoSense {p : Problem} :
    part ∈ ini.parts → MakesNoSense ini p →
    x = ⟨[.notice (.ignoredSettings path p)], .ok ⟨none, none⟩⟩
  /-- There is nothing else that a section can hold but references that cannot be replaced. -/
  section_cases :
    (∃ strict maxDepth, TellsStrict ini strict ∧ TellsDepth ini maxDepth) ∨
      (∃ p, MakesNoSense ini p) ∨ Misleads ini
  /-- Those are the failures. -/
  fails_iff : (∃ p, x.result = .error p) ↔ part ∈ ini.parts ∧ Misleads ini
  /-- A failure is about references, and comes without a notice. -/
  eq_fail {p : Problem} : x.result = .error p → x = Outcome.fail p ∧ IsReferenceProblem p
  /-- All settings are given by the file, and they are valid. -/
  areGiven {settings : Settings} : x.result = .ok settings → AreGiven ini settings

/-- A file that was read into sections and options is taken as it is meant, or ignored with one
notice, or refused because of a reference that comes before all texts that make no sense. -/
theorem isTakenAs (parsed : Ini.read text = .ok ini) (path : String) :
    IsTakenAs path ini (read path text) where
  of_absent := read_of_not_mem parsed
  of_tells := read_of_tells parsed
  of_makesNoSense := read_of_makesNoSense parsed
  section_cases := section_cases ini
  fails_iff := by
    constructor
    · rintro ⟨p, failed⟩
      exact (of_read_error parsed failed).2.2
    · rintro ⟨present, misleads⟩
      obtain ⟨p, failed, _⟩ := exists_read_eq_fail parsed present misleads path
      exact ⟨p, by rw [failed]; rfl⟩
  eq_fail failed := ⟨(of_read_error parsed failed).1, (of_read_error parsed failed).2.1⟩
  areGiven := areGiven_of_read parsed

/-- A file whose section gets a value from all sections and refers to one of its own. -/
def referringText : List Char :=
  "[DEFAULT]\nflag = YES\n[parse]\nstrict = %(flag)s\nmax_depth = 1%(six)s\nsix = 6\n".toList

/-- What the file is read into. -/
def referringIni : Ini where
  parts := [part]
  entries :=
    [⟨Ini.defaultPart, "flag".toList, ["YES".toList]⟩,
      ⟨part, "strict".toList, ["%(flag)s".toList]⟩,
      ⟨part, "max_depth".toList, ["1%(six)s".toList]⟩,
      ⟨part, "six".toList, ["6".toList, []]⟩]

theorem iniRead_referring : Ini.read referringText = .ok referringIni := by rfl

theorem tellsStrict_referring : TellsStrict referringIni (some true) := by
  have flag : Ini.Expands referringIni part Ini.depthLimit (Ini.pieces "%(flag)s".toList)
      ("YES".toList ++ []) := .plain rfl (by decide) .nil
  exact .value ⟨"%(flag)s".toList, rfl, flag⟩ rfl

theorem tellsDepth_referring : TellsDepth referringIni (some 16) := by
  have digits : Ini.Expands referringIni part Ini.depthLimit (Ini.pieces "1%(six)s".toList)
      ('1' :: ("6".toList ++ [])) := .char (.plain rfl (by decide) .nil)
  exact .value ⟨"1%(six)s".toList, rfl, digits⟩ rfl

/-- The references are replaced before the texts are made sense of. -/
theorem isTakenAs_referring :
    Ini.read referringText = .ok referringIni ∧
      IsTakenAs "picmetarc" referringIni (read "picmetarc" referringText) ∧
      read "picmetarc" referringText = pure ⟨some true, some 16⟩ := by
  have taken := isTakenAs iniRead_referring "picmetarc"
  exact ⟨iniRead_referring, taken,
    taken.of_tells List.mem_cons_self tellsStrict_referring tellsDepth_referring⟩

/-- A file with a percent sign that begins nothing. -/
def misleadingText : List Char := "[parse]\nstrict = 5%\n".toList

/-- What the file is read into. -/
def misleadingIni : Ini := ⟨[part], [⟨part, "strict".toList, ["5%".toList, []]⟩]⟩

theorem value?_misleading :
    misleadingIni.value? part "strict".toList = .error .interpolationSyntax := by
  have written : misleadingIni.written? part "strict".toList = some "5%".toList := rfl
  have pieces : Ini.pieces "5%".toList = [.char '5', .malformed] := rfl
  rw [Ini.value?, written]
  dsimp only
  rw [pieces, Ini.replace, Ini.replace]
  rfl

/-- The file is read into a section with one option. Its text is no truth value, but there is a
failure and no notice. -/
theorem read_misleading :
    Ini.read misleadingText = .ok misleadingIni ∧ part ∈ misleadingIni.parts ∧
      read "picmetarc" misleadingText = Outcome.fail .interpolationSyntax := by
  have parsed : Ini.read misleadingText = .ok misleadingIni := rfl
  have present : part ∈ misleadingIni.parts := List.mem_singleton_self _
  refine ⟨parsed, present, ?_⟩
  rw [read_of_mem parsed present, ofIni_eq, fetch, value?_misleading]
  rfl

end ImageMetadata.Settings
