import ImageMetadata.Proofs.Settings.Reading
import Mathlib.Data.List.Induction

/-!
# Histories of options

A store of options starts from the settings of a file, and is then asked to set, get, reset and
resolve options in any order, with any names and values. Some of this is refused. Whatever was
asked, an option has the value that it was last set to after it was last reset, or else the one it
started with, and the depth limit is positive.
-/

namespace ImageMetadata

namespace Options

open Name (ofText?)

theorem ofText?_eq_some_iff {key : String} {name : Name} :
    ofText? key = some name ↔ key = name.text := by
  constructor
  · intro found
    unfold ofText? at found
    have same := List.find?_some found
    exact (beq_iff_eq.1 same).symm
  · rintro rfl
    cases name <;> rfl

theorem ofText?_eq_none_iff {key : String} :
    ofText? key = none ↔ ∀ name : Name, key ≠ name.text := by
  rw [Option.eq_none_iff_forall_ne_some]
  exact forall_congr' fun name => not_congr ofText?_eq_some_iff

theorem text_inj {name other : Name} : name.text = other.text ↔ name = other := by
  constructor
  · intro same
    have known := ofText?_eq_some_iff.2 same
    rw [ofText?_eq_some_iff.2 rfl] at known
    exact Option.some.inj known
  · exact congrArg Name.text

/-- Whether an option may have a value. -/
def Name.admits : Name → Literal → Bool
  | .maxDepth, .integer n => decide (1 ≤ n)
  | .maxDepth, _ => false
  | _, _ => true

/-- A value that is admitted becomes that of the option, and no other option changes. -/
theorem exists_change_eq (o : Options) {name : Name} {value : Literal}
    (admitted : name.admits value = true) :
    ∃ t, o.change name value = .ok t ∧
      ∀ other, t.value other = if other = name then value else o.value other := by
  cases name with
  | strict => exact ⟨_, rfl, fun other => by cases other <;> rfl⟩
  | short => exact ⟨_, rfl, fun other => by cases other <;> rfl⟩
  | maxDepth =>
      cases value with
      | integer n =>
          have large : ¬ n < 1 := by simpa [Name.admits] using admitted
          refine ⟨{ o with maxDepth := n }, ?_, fun other => by cases other <;> rfl⟩
          simp only [change, if_neg large]
      | _ => cases admitted

/-- Any other value is refused. -/
theorem change_eq_error (o : Options) {name : Name} {value : Literal}
    (refused : name.admits value = false) :
    o.change name value = .error (.depthOption value) := by
  cases name with
  | strict => cases refused
  | short => cases refused
  | maxDepth =>
      cases value with
      | integer n =>
          have small : n < 1 := by simpa [Name.admits] using refused
          simp only [change, if_pos small]
      | _ => rfl

/-- Restoring an option changes no other one. -/
theorem value_restore (o initial : Options) (name other : Name) :
    (o.restore initial name).value other =
      if other = name then initial.value other else o.value other := by
  cases name <;> cases other <;> rfl

/-- Every option has a value that it may have. -/
def IsValid (o : Options) : Prop := ∀ name : Name, name.admits (o.value name) = true

theorem isValid_iff {o : Options} : o.IsValid ↔ 1 ≤ o.maxDepth := by
  constructor
  · intro valid
    exact of_decide_eq_true (valid .maxDepth)
  · intro large name
    cases name with
    | maxDepth => exact decide_eq_true large
    | strict => rfl
    | short => rfl

end Options

namespace Settings

/-- Settings that options start from: those of a file that is named, or those of the file that
counts among some that exist. -/
inductive IsProvided (settings : Settings) : Prop
  | named (path : String) (text : List Char) (done : (read path text).result = .ok settings)
  | found (e : Environment) (working own : String) (files : List (String × List Char))
      (done : (e.settings working files own).result = .ok settings)

theorem IsProvided.isValid_options {settings : Settings} (h : settings.IsProvided) :
    settings.options.IsValid := by
  rw [Options.isValid_iff, options]
  cases given : settings.maxDepth with
  | none => exact (by decide : (1 : Int) ≤ 32)
  | some n =>
      obtain ⟨path, text, done⟩ | ⟨e, working, own, files, done⟩ := h
      · exact one_le_of_read done given
      · unfold Environment.settings at done
        split at done
        · exact one_le_of_read done given
        · cases done
          cases given

end Settings

namespace OptionStore

open Options (Name)

/-- What is asked of a store. -/
inductive Request where
  | set (key : String) (value : Literal)
  | get (key : String)
  | reset (key : String)
  | resolve (strict maxDepth : Literal)

/-- What a store answers. -/
inductive Answer where
  | done
  | value (v : Literal)
  | policy (strict : Bool) (maxDepth : Literal)

namespace Request

/-- The answer to a change, with the store that it leaves. A change that is refused leaves the store
alone. -/
def answerTo (s : OptionStore) : Except Problem OptionStore → Except Problem Answer × OptionStore
  | .ok t => (.ok .done, t)
  | .error p => (.error p, s)

/-- The answer to a request, with the store that it leaves. -/
def perform (s : OptionStore) : Request → Except Problem Answer × OptionStore
  | set key value => answerTo s (s.set key value)
  | get key => ((s.get key).map Answer.value, s)
  | reset key => answerTo s (s.reset key)
  | resolve strict maxDepth =>
    let policy := s.current.resolve strict maxDepth
    (.ok (.policy policy.1 policy.2), s)

/-- The value that an option is set to, if the request sets it to one that it may have. -/
def sets? (name : Name) : Request → Option Literal
  | set key value => if key = name.text ∧ name.admits value = true then some value else none
  | _ => none

/-- Whether the request resets an option, by its name or with all others. -/
def resets (name : Name) : Request → Bool
  | reset key => key == "all" || key == name.text
  | _ => false

end Request

/-- The store after some requests, whether or not they are refused. -/
def after (s : OptionStore) (requests : List Request) : OptionStore :=
  requests.foldl (fun s r => (r.perform s).2) s

/-- The value that requests last set an option to after they last reset it. -/
def lastSet? (name : Name) (requests : List Request) : Option Literal :=
  (requests.reverse.takeWhile fun r => !r.resets name).findSome? (Request.sets? name)

variable {s : OptionStore}

/-- An option is set to a value that it may have; anything else is refused. -/
theorem set_cases (s : OptionStore) (key : String) (value : Literal) :
    (∃ t, s.set key value = .ok { s with current := t } ∧
        (∃ name : Name, key = name.text ∧ name.admits value = true) ∧
        ∀ name, t.value name =
          (Request.sets? name (.set key value)).getD (s.current.value name)) ∨
      (∃ p, s.set key value = .error p) ∧ ∀ name : Name, key = name.text →
        name.admits value = false := by
  unfold OptionStore.set
  cases named : Name.ofText? key with
  | none =>
      have unknown := Options.ofText?_eq_none_iff.1 named
      exact .inr ⟨⟨_, rfl⟩, fun name same => absurd same (unknown name)⟩
  | some name =>
      obtain rfl := Options.ofText?_eq_some_iff.1 named
      cases admitted : name.admits value with
      | true =>
          obtain ⟨t, changed, values⟩ := s.current.exists_change_eq admitted
          have done : (s.current.change name value).map (fun o => { s with current := o }) =
              .ok { s with current := t } := by
            rw [changed]
            rfl
          refine .inl ⟨t, done, ⟨name, rfl, admitted⟩, fun other => ?_⟩
          rw [values other]
          by_cases same : other = name
          · subst same
            simp [Request.sets?, admitted]
          · simp [Request.sets?, Options.text_inj, same, Ne.symm same]
      | false =>
          have refused := s.current.change_eq_error admitted
          refine .inr ⟨⟨.depthOption value, by simp only [refused, Except.map]⟩, ?_⟩
          intro other same
          rw [← Options.text_inj.1 same]
          exact admitted

/-- An option is reset, or all of them are; there is nothing else to reset. -/
theorem reset_cases (s : OptionStore) (key : String) :
    (∃ t, s.reset key = .ok { s with current := t } ∧
        ∀ name : Name, t.value name =
          if Request.resets name (.reset key) then s.initial.value name
          else s.current.value name) ∨
      (∃ p, s.reset key = .error p) ∧ ∀ name : Name, Request.resets name (.reset key) = false := by
  unfold OptionStore.reset
  by_cases all : key = "all"
  · refine .inl ⟨s.initial, if_pos all, fun name => ?_⟩
    rw [if_pos (by simp [Request.resets, all])]
  rw [if_neg all]
  cases named : Name.ofText? key with
  | none =>
      have unknown := Options.ofText?_eq_none_iff.1 named
      exact .inr ⟨⟨_, rfl⟩, fun name => by simp [Request.resets, all, unknown name]⟩
  | some name =>
      obtain rfl := Options.ofText?_eq_some_iff.1 named
      refine .inl ⟨_, rfl, fun other => ?_⟩
      rw [Options.value_restore]
      by_cases same : other = name
      · simp [Request.resets, same]
      · simp [Request.resets, all, Options.text_inj, same, Ne.symm same]

/-- What a request does to a store: it resets an option, sets it, or leaves it as it is. -/
theorem exists_perform_eq (r : Request) (s : OptionStore) :
    ∃ t, (r.perform s).2 = { s with current := t } ∧
      ∀ name : Name, t.value name =
        if r.resets name then s.initial.value name
        else (r.sets? name).getD (s.current.value name) := by
  cases r with
  | set key value =>
      rcases set_cases s key value with ⟨t, done, _, values⟩ | ⟨⟨p, failed⟩, refused⟩
      · exact ⟨t, by simp only [Request.perform, done, Request.answerTo], values⟩
      · refine ⟨s.current, by simp only [Request.perform, failed, Request.answerTo], fun name => ?_⟩
        have unset : Request.sets? name (.set key value) = none := by
          simpa [Request.sets?] using refused name
        rw [unset]
        rfl
  | get key => exact ⟨s.current, rfl, fun name => rfl⟩
  | reset key =>
      rcases reset_cases s key with ⟨t, done, values⟩ | ⟨⟨p, failed⟩, refused⟩
      · exact ⟨t, by simp only [Request.perform, done, Request.answerTo], values⟩
      · refine ⟨s.current, by simp only [Request.perform, failed, Request.answerTo], fun name => ?_⟩
        rw [refused name]
        rfl
  | resolve strict maxDepth => exact ⟨s.current, rfl, fun name => rfl⟩

theorem initial_perform (r : Request) (s : OptionStore) : (r.perform s).2.initial = s.initial := by
  obtain ⟨t, performed, _⟩ := exists_perform_eq r s
  rw [performed]

theorem value_perform (r : Request) (s : OptionStore) (name : Name) :
    (r.perform s).2.current.value name =
      if r.resets name then s.initial.value name
      else (r.sets? name).getD (s.current.value name) := by
  obtain ⟨t, performed, values⟩ := exists_perform_eq r s
  rw [performed]
  exact values name

theorem answerTo_eq_of_error {x : Except Problem OptionStore} {p : Problem}
    (failed : (Request.answerTo s x).1 = .error p) : (Request.answerTo s x).2 = s := by
  cases x with
  | ok t => cases failed
  | error q => rfl

/-- A request that is refused changes nothing. -/
theorem perform_eq_of_error {r : Request} {p : Problem} (failed : (r.perform s).1 = .error p) :
    (r.perform s).2 = s := by
  cases r with
  | set key value => exact answerTo_eq_of_error failed
  | get key => rfl
  | reset key => exact answerTo_eq_of_error failed
  | resolve strict maxDepth => rfl

theorem admits_of_sets? {r : Request} {name : Name} {value : Literal}
    (h : r.sets? name = some value) : name.admits value = true := by
  unfold Request.sets? at h
  split at h
  · split at h
    · rename_i named
      cases h
      exact named.2
    · cases h
  · cases h

/-- A request keeps the options valid. -/
theorem isValid_perform (r : Request) (initial : s.initial.IsValid) (current : s.current.IsValid) :
    (r.perform s).2.current.IsValid := by
  intro name
  rw [value_perform]
  split
  · exact initial name
  · cases set : r.sets? name with
    | none => exact current name
    | some value => exact admits_of_sets? set

theorem after_append (s : OptionStore) (requests : List Request) (r : Request) :
    after s (requests ++ [r]) = (r.perform (after s requests)).2 := by
  simp [after]

theorem initial_after (s : OptionStore) (requests : List Request) :
    (after s requests).initial = s.initial := by
  induction requests generalizing s with
  | nil => rfl
  | cons r rest ih => exact (ih (r.perform s).2).trans (initial_perform r s)

/-- Requests keep the options valid. -/
theorem isValid_after (requests : List Request) (initial : s.initial.IsValid)
    (current : s.current.IsValid) : (after s requests).current.IsValid := by
  induction requests generalizing s with
  | nil => exact current
  | cons r rest ih =>
      refine ih ?_ (isValid_perform r initial current)
      rw [initial_perform]
      exact initial

theorem lastSet?_append (name : Name) (requests : List Request) (r : Request) :
    lastSet? name (requests ++ [r]) =
      if r.resets name then none else (r.sets? name).or (lastSet? name requests) := by
  unfold lastSet?
  rw [List.reverse_append, List.reverse_singleton, List.singleton_append]
  cases resets : r.resets name with
  | true => simp [resets]
  | false =>
      simp only [List.takeWhile_cons, resets, Bool.not_false, if_true, List.findSome?_cons]
      cases r.sets? name <;> rfl

/-- An option has the value that it was last set to after it was last reset, if it was. -/
theorem value_after (o : Options) (requests : List Request) (name : Name) :
    (after (ofOptions o) requests).current.value name =
      (lastSet? name requests).getD (o.value name) := by
  -- by the last request: a reset or a set that is done hides all requests before it
  induction requests using List.reverseRecOn with
  | nil => rfl
  | append_singleton rest r ih =>
      rw [after_append, value_perform, initial_after, ih, lastSet?_append]
      split
      · rfl
      · cases r.sets? name <;> rfl

theorem get_eq_ok_iff {key : String} {v : Literal} :
    s.get key = .ok v ↔ ∃ name : Name, key = name.text ∧ s.current.value name = v := by
  unfold get
  cases named : Name.ofText? key with
  | none =>
      refine ⟨nofun, ?_⟩
      rintro ⟨name, same, _⟩
      exact absurd same (Options.ofText?_eq_none_iff.1 named name)
  | some name =>
      obtain rfl := Options.ofText?_eq_some_iff.1 named
      simp only [Except.ok.injEq]
      constructor
      · exact fun same => ⟨name, rfl, same⟩
      · rintro ⟨other, same, holds⟩
        rw [Options.text_inj.1 same]
        exact holds

/-- A store is what some requests make of one that started from some options. -/
structure IsConsistent (o : Options) (requests : List Request) (s : OptionStore) : Prop where
  /-- Three options have values, and nothing else has. -/
  get_iff (key : String) :
    (∃ v, s.get key = .ok v) ↔ key ∈ ["parse.strict", "parse.max_depth", "print.short"]
  /-- The depth limit is a positive integer. -/
  depth : ∃ n : Int, 1 ≤ n ∧ s.get "parse.max_depth" = .ok (.integer n)
  /-- Every option has the value that it was last set to after it was last reset, or the one that it
  started with. -/
  get_eq (name : Name) :
    s.get name.text = .ok ((lastSet? name requests).getD (o.value name))
  /-- An option can be set to a value exactly if it may have that value. -/
  set_iff (key : String) (value : Literal) :
    (∃ a, ((Request.set key value).perform s).1 = .ok a) ↔
      ∃ name : Name, key = name.text ∧ name.admits value = true
  /-- What is refused changes nothing. -/
  refused {r : Request} {p : Problem} : (r.perform s).1 = .error p → (r.perform s).2 = s
  /-- All options can be given back the values that they started with. -/
  reset_all : (Request.reset "all").perform s = (.ok .done, ofOptions o)
  /-- What the caller leaves open is filled in from the options, and nothing else is. -/
  resolve (strict maxDepth : Literal) :
    ∃ b d, (Request.resolve strict maxDepth).perform s = (.ok (.policy b d), s) ∧
      (strict ≠ .null → b = strict.truth) ∧
      (strict = .null → ∃ v, s.get "parse.strict" = .ok v ∧ b = v.truth) ∧
      (maxDepth ≠ .null → d = maxDepth) ∧
      (maxDepth = .null → s.get "parse.max_depth" = .ok d)

theorem get_iff (s : OptionStore) (key : String) :
    (∃ v, s.get key = .ok v) ↔ key ∈ ["parse.strict", "parse.max_depth", "print.short"] := by
  simp only [get_eq_ok_iff, List.mem_cons, List.not_mem_nil, or_false]
  constructor
  · rintro ⟨_, name, rfl, _⟩
    cases name with
    | strict => exact .inl rfl
    | maxDepth => exact .inr (.inl rfl)
    | short => exact .inr (.inr rfl)
  · rintro (rfl | rfl | rfl)
    · exact ⟨_, .strict, rfl, rfl⟩
    · exact ⟨_, .maxDepth, rfl, rfl⟩
    · exact ⟨_, .short, rfl, rfl⟩

theorem set_iff (s : OptionStore) (key : String) (value : Literal) :
    (∃ a, ((Request.set key value).perform s).1 = .ok a) ↔
      ∃ name : Name, key = name.text ∧ name.admits value = true := by
  rw [Request.perform]
  rcases set_cases s key value with ⟨t, done, named, _⟩ | ⟨⟨p, failed⟩, refused⟩
  · rw [done]
    exact ⟨fun _ => named, fun _ => ⟨.done, rfl⟩⟩
  · rw [failed]
    refine ⟨nofun, ?_⟩
    rintro ⟨name, same, admitted⟩
    rw [refused name same] at admitted
    cases admitted

/-- What the caller gives is kept; the rest is filled in. -/
theorem resolve_cases (o : Options) (strict maxDepth : Literal) :
    ∃ b d, o.resolve strict maxDepth = (b, d) ∧
      (strict ≠ .null → b = strict.truth) ∧ (strict = .null → b = o.strict.truth) ∧
      (maxDepth ≠ .null → d = maxDepth) ∧ (maxDepth = .null → d = .integer o.maxDepth) := by
  refine ⟨_, _, rfl, ?_⟩
  cases strict <;> cases maxDepth <;> simp

/-- However a store that starts from settings was changed, its options are consistent. -/
theorem isConsistent_after {settings : Settings} (provided : settings.IsProvided)
    (requests : List Request) :
    IsConsistent settings.options requests (after (ofOptions settings.options) requests) := by
  have start := provided.isValid_options
  have valid := isValid_after (s := ofOptions settings.options) requests start start
  refine {
    get_iff := get_iff _
    depth := ⟨_, Options.isValid_iff.1 valid, get_eq_ok_iff.2 ⟨.maxDepth, rfl, rfl⟩⟩
    get_eq := fun name => get_eq_ok_iff.2 ⟨name, rfl, value_after _ requests name⟩
    set_iff := set_iff _
    refused := perform_eq_of_error
    reset_all := ?_
    resolve := fun strict maxDepth => ?_ }
  · have initial := initial_after (ofOptions settings.options) requests
    simp only [Request.perform, reset, if_pos, initial]
    rfl
  · obtain ⟨b, d, resolved, strictGiven, strictOpen, depthGiven, depthOpen⟩ :=
      resolve_cases (after (ofOptions settings.options) requests).current strict maxDepth
    refine ⟨b, d, ?_, strictGiven, fun null => ?_, depthGiven, fun null => ?_⟩
    · simp only [Request.perform, resolved]
    · exact ⟨_, get_eq_ok_iff.2 ⟨.strict, rfl, rfl⟩, strictOpen null⟩
    · rw [depthOpen null]
      exact get_eq_ok_iff.2 ⟨.maxDepth, rfl, rfl⟩

/-- A store that starts from a file, in which an option is set, one is not, and one is set and
reset. -/
theorem isConsistent_after_referring :
    Settings.IsProvided ⟨some true, some 16⟩ ∧
      IsConsistent ⟨.bool true, 16, .bool false⟩
        [.set "parse.max_depth" (.integer 4), .set "parse.max_depth" (.bool true),
          .set "parse.strict" (.text ""), .reset "parse.strict"]
        ⟨⟨.bool true, 16, .bool false⟩, ⟨.bool true, 4, .bool false⟩⟩ := by
  have read : Settings.read "picmetarc" Settings.referringText = pure ⟨some true, some 16⟩ :=
    Settings.read_of_tells Settings.iniRead_referring List.mem_cons_self
      Settings.tellsStrict_referring Settings.tellsDepth_referring
  have provided : Settings.IsProvided ⟨some true, some 16⟩ :=
    .named _ _ (congrArg Outcome.result read)
  exact ⟨provided, isConsistent_after provided _⟩

end OptionStore

end ImageMetadata
