import ImageMetadata.Proofs.Embedding.Basic

/-!
# Histories of metadata

Metadata are filled by changes in any order, some of which fail. Whatever the changes, each place
gets the first directory that is offered for it, the header and the XMP tree are the first ones, and
nothing that was collected is replaced or removed. Once the metadata are frozen no change has an
effect.
-/

namespace ImageMetadata.Metadata

open Tiff (Directory DirectoryId)

/-- A change that is asked of metadata. -/
inductive Change where
  | addStream (stream : Tiff.Stream) (strict : Bool)
  | addDirectory (d : Directory) (strict : Bool)
  | addRecord (r : TextRecord)
  | setXmp (tree : Option Xml.Document)
  | freeze

namespace Change

/-- Does the change; where a single directory is added, the answer tells whether it was. -/
def perform : Change → Action Metadata (Option Bool)
  | addStream stream strict => do
    Metadata.addStream stream strict
    return none
  | addDirectory d strict => do return some (← Metadata.addDirectory d strict)
  | addRecord r => do
    Metadata.addRecord r
    return none
  | setXmp tree => do
    Metadata.setXmp tree
    return none
  | freeze => do
    Metadata.freeze
    return none

/-- Whether the change is the last one that has an effect. -/
def isFreeze : Change → Bool
  | freeze => true
  | _ => false

theorem eq_freeze {c : Change} (h : c.isFreeze = true) : c = freeze := by
  cases c with
  | freeze => rfl
  | _ => cases h

/-- The header that comes with the change. -/
def header? : Change → Option Tiff.Header
  | addStream stream _ => some stream.header
  | _ => none

/-- The record that comes with the change. -/
def record? : Change → Option TextRecord
  | addRecord r => some r
  | _ => none

/-- The XMP tree that comes with the change. -/
def tree? : Change → Option Xml.Document
  | setXmp tree => tree
  | _ => none

/-- The directories of a list that are offered where some were offered before; a strict reader stops
at the first one whose place is filled. -/
def offersOf (strict : Bool) (before : List Directory) : List Directory → List Directory
  | [] => []
  | d :: rest =>
    if strict = true ∧ d.id ∈ before.map Directory.id then [d]
    else d :: offersOf strict (before ++ [d]) rest

/-- The directories that the change offers where some were offered before. -/
def offers (before : List Directory) : Change → List Directory
  | addStream stream strict => offersOf strict before stream.directories
  | addDirectory d _ => [d]
  | _ => []

end Change

/-- The metadata after some changes, whether or not they succeed. -/
def after (m : Metadata) (changes : List Change) : Metadata :=
  changes.foldl (fun m c => (c.perform.run m).2) m

/-- The changes that have an effect: those before the metadata are frozen. -/
def effective (changes : List Change) : List Change := changes.takeWhile fun c => !c.isFreeze

/-- The directories that changes offer, in order. -/
def offered (changes : List Change) : List Directory :=
  (effective changes).foldl (fun before c => before ++ c.offers before) []

/-- Of the directories that were offered, the first one for each place is kept, in the order in
which the places were first offered. -/
structure KeepsFirst (offered kept : List Directory) : Prop where
  nodup : (kept.map Directory.id).Nodup
  ids_eq : kept.map Directory.id = (offered.map Directory.id).eraseDups
  find?_eq (id : DirectoryId) :
    kept.find? (fun d => d.id == id) = offered.find? fun d => d.id == id

namespace KeepsFirst

variable {before kept : List Directory} {d : Directory}

theorem nil : KeepsFirst [] [] := ⟨.nil, rfl, fun _ => rfl⟩

theorem mem_iff (h : KeepsFirst before kept) {id : DirectoryId} :
    id ∈ kept.map Directory.id ↔ id ∈ before.map Directory.id := by
  rw [h.ids_eq, List.mem_eraseDups]

/-- A directory for a filled place changes nothing. -/
theorem of_known (h : KeepsFirst before kept) (known : d.id ∈ kept.map Directory.id) :
    KeepsFirst (before ++ [d]) kept where
  nodup := h.nodup
  ids_eq := by
    have old := h.mem_iff.1 known
    rw [h.ids_eq, List.map_append, List.map_singleton, List.eraseDups_append]
    simp [List.removeAll, -List.mem_map, old]
  find?_eq id := by
    rw [h.find?_eq id, List.find?_append, List.find?_singleton]
    split
    · rename_i same
      obtain ⟨e, member, place⟩ := List.mem_map.1 (h.mem_iff.1 known)
      have found : (before.find? fun d => d.id == id).isSome := by
        rw [List.find?_isSome]
        exact ⟨e, member, by rw [place]; exact same⟩
      rw [Option.or_of_isSome found]
    · rw [Option.or_none]

/-- A directory for a free place is kept behind the others. -/
theorem of_new (h : KeepsFirst before kept) (new : d.id ∉ kept.map Directory.id) :
    KeepsFirst (before ++ [d]) (kept ++ [d]) where
  nodup := by
    rw [List.map_append, List.map_singleton, List.nodup_append]
    refine ⟨h.nodup, List.pairwise_singleton _ _, fun id old other same => ?_⟩
    rw [List.mem_singleton.1 same]
    exact fun eq => new (eq ▸ old)
  ids_eq := by
    have free : d.id ∉ before.map Directory.id := fun old => new (h.mem_iff.2 old)
    rw [List.map_append, List.map_append, List.map_singleton, List.eraseDups_append, h.ids_eq]
    simp [List.removeAll, -List.mem_map, free, List.eraseDups_cons]
  find?_eq id := by rw [List.find?_append, List.find?_append, h.find?_eq id]

end KeepsFirst

variable {m : Metadata} {before : List Directory}

theorem contains_eq_true {id : DirectoryId} (known : id ∈ m.directories.map Directory.id) :
    m.contains id = true := by
  obtain ⟨d, member, rfl⟩ := List.mem_map.1 known
  rw [contains, directory?, List.find?_isSome]
  exact ⟨d, member, beq_self_eq_true _⟩

/-- A directory for a filled place is flagged and left out. -/
theorem run_addDirectory_of_known {d : Directory} (strict : Bool) (isOpen : m.frozen = false)
    (known : d.id ∈ m.directories.map Directory.id) :
    (addDirectory d strict).run m =
      (do Outcome.flag strict (.duplicateDirectory d.id d.offset); return false, m) := by
  unfold addDirectory
  rw [Action.run_bind_of_pure _ (run_requireOpen isOpen), Action.run_state_bind,
    contains_eq_true known]
  cases strict <;> rfl

/-- What a directory does to the directories that were collected. -/
theorem exists_kept_of_addDirectory (d : Directory) (strict : Bool) (isOpen : m.frozen = false)
    (h : KeepsFirst before m.directories) :
    ∃ kept, ((addDirectory d strict).run m).2 = { m with directories := kept } ∧
      m.directories <+: kept ∧ KeepsFirst (before ++ [d]) kept := by
  by_cases known : d.id ∈ m.directories.map Directory.id
  · rw [run_addDirectory_of_known strict isOpen known]
    exact ⟨m.directories, rfl, List.prefix_refl _, h.of_known known⟩
  · rw [run_addDirectory strict isOpen known]
    exact ⟨m.directories ++ [d], rfl, List.prefix_append _ _, h.of_new known⟩

/-- What directories in a row do to those that were collected, up to where a strict reader stops. -/
theorem exists_kept_of_addDirectories (list : List Directory) (strict : Bool)
    (isOpen : m.frozen = false) (h : KeepsFirst before m.directories) :
    ∃ kept, ((addDirectories strict list).run m).2 = { m with directories := kept } ∧
      m.directories <+: kept ∧ KeepsFirst (before ++ Change.offersOf strict before list) kept := by
  induction list generalizing m before with
  | nil =>
      rw [Change.offersOf, List.append_nil]
      exact ⟨m.directories, rfl, List.prefix_refl _, h⟩
  | cons d rest ih =>
      rw [addDirectories_cons, Action.run_bind_snd]
      by_cases known : d.id ∈ m.directories.map Directory.id
      · have old := h.mem_iff.1 known
        rw [run_addDirectory_of_known strict isOpen known]
        cases strict with
        | true =>
            rw [Change.offersOf, if_pos ⟨rfl, old⟩]
            exact ⟨m.directories, rfl, List.prefix_refl _, h.of_known known⟩
        | false =>
            obtain ⟨kept, state, more, keeps⟩ := ih isOpen (h.of_known known)
            rw [List.append_assoc] at keeps
            rw [Change.offersOf, if_neg fun stops => Bool.false_ne_true stops.1]
            exact ⟨kept, state, more, keeps⟩
      · have free : d.id ∉ before.map Directory.id := fun old => known (h.mem_iff.2 old)
        obtain ⟨kept, state, more, keeps⟩ :=
          ih (m := { m with directories := m.directories ++ [d] }) isOpen (h.of_new known)
        rw [List.append_assoc] at keeps
        rw [run_addDirectory strict isOpen known, Change.offersOf, if_neg fun stops => free stops.2]
        exact ⟨kept, state, (List.prefix_append _ _).trans more, keeps⟩

/-- A stream brings its header first. -/
theorem run_addStream_of_open (stream : Tiff.Stream) (strict : Bool) (isOpen : m.frozen = false) :
    (addStream stream strict).run m = (addDirectories strict stream.directories).run
      { m with header := m.header.or (some stream.header) } := by
  unfold addStream
  rw [Action.run_bind_of_pure _ (run_requireOpen isOpen),
    Action.run_bind_of_pure _ (Action.run_update _ m)]

theorem run_requireOpen_of_frozen (frozen : m.frozen = true) :
    requireOpen.run m = (Outcome.fail .frozen, m) := by
  unfold requireOpen
  rw [Action.run_state_bind, frozen]
  rfl

namespace Change

/-- The answer of a change is made without a further change. -/
theorem run_answer_snd {α β : Type} (x : Action Metadata α) (answer : α → β) :
    ((do return answer (← x) : Action Metadata β).run m).2 = (x.run m).2 := by
  rw [Action.run_bind_snd]
  cases (x.run m).1.result <;> rfl

/-- What a change does to metadata that are open. -/
theorem exists_kept_of_perform (c : Change) (isOpen : m.frozen = false)
    (h : KeepsFirst before m.directories) :
    ∃ kept, (c.perform.run m).2 =
        { m with
          header := m.header.or c.header?
          directories := kept
          records := m.records ++ c.record?.toList
          xmp := m.xmp.or c.tree?
          frozen := c.isFreeze } ∧
      m.directories <+: kept ∧ KeepsFirst (before ++ c.offers before) kept := by
  cases c with
  | addStream stream strict =>
      obtain ⟨kept, state, more, keeps⟩ := exists_kept_of_addDirectories
        (m := { m with header := m.header.or (some stream.header) }) stream.directories strict
        isOpen h
      refine ⟨kept, ?_, more, keeps⟩
      rw [perform, run_answer_snd (Metadata.addStream stream strict),
        run_addStream_of_open _ _ isOpen, state]
      simp [header?, record?, tree?, isFreeze, isOpen]
  | addDirectory d strict =>
      obtain ⟨kept, state, more, keeps⟩ := exists_kept_of_addDirectory d strict isOpen h
      refine ⟨kept, ?_, more, keeps⟩
      rw [perform, run_answer_snd (Metadata.addDirectory d strict), state]
      simp [header?, record?, tree?, isFreeze, isOpen]
  | addRecord r =>
      refine ⟨m.directories, ?_, List.prefix_refl _, by simpa [offers] using h⟩
      rw [perform, run_answer_snd (Metadata.addRecord r), Metadata.addRecord,
        Action.run_bind_of_pure _ (run_requireOpen isOpen)]
      simp [header?, record?, tree?, isFreeze, isOpen]
  | setXmp tree =>
      refine ⟨m.directories, ?_, List.prefix_refl _, by simpa [offers] using h⟩
      rw [perform, run_answer_snd (Metadata.setXmp tree), Metadata.setXmp,
        Action.run_bind_of_pure _ (run_requireOpen isOpen)]
      simp [header?, record?, tree?, isFreeze, isOpen]
  | freeze =>
      refine ⟨m.directories, ?_, List.prefix_refl _, by simpa [offers] using h⟩
      rw [perform, run_answer_snd Metadata.freeze, Metadata.freeze]
      simp [header?, record?, tree?, isFreeze]

/-- Every change but the last one first makes sure that the metadata are open. -/
theorem exists_perform_eq {c : Change} (mutator : c.isFreeze = false) :
    ∃ change : Unit → Action Metadata (Option Bool), c.perform = requireOpen >>= change := by
  cases c with
  | addStream stream strict => exact ⟨_, bind_assoc _ _ _⟩
  | addDirectory d strict => exact ⟨_, bind_assoc _ _ _⟩
  | addRecord r => exact ⟨_, bind_assoc _ _ _⟩
  | setXmp tree => exact ⟨_, bind_assoc _ _ _⟩
  | freeze => cases mutator

/-- Frozen metadata refuse every change but to freeze them again. -/
theorem run_perform_of_frozen {c : Change} (mutator : c.isFreeze = false)
    (frozen : m.frozen = true) : c.perform.run m = (Outcome.fail .frozen, m) := by
  obtain ⟨change, same⟩ := exists_perform_eq mutator
  rw [same]
  exact Action.run_bind_of_error change (run_requireOpen_of_frozen frozen)

/-- No change has an effect on frozen metadata. -/
theorem run_perform_snd_of_frozen (c : Change) (frozen : m.frozen = true) :
    (c.perform.run m).2 = m := by
  cases kind : c.isFreeze with
  | false => rw [run_perform_of_frozen kind frozen]
  | true =>
      obtain rfl := eq_freeze kind
      obtain ⟨format, header, directories, records, xmp, _⟩ := m
      obtain rfl := frozen
      rfl

end Change

/-- Frozen metadata stay as they are. -/
theorem after_of_frozen (changes : List Change) (frozen : m.frozen = true) :
    after m changes = m := by
  induction changes with
  | nil => rfl
  | cons c rest ih =>
      rw [after, List.foldl_cons, c.run_perform_snd_of_frozen frozen]
      exact ih

theorem effective_of_freeze {c : Change} (rest : List Change) (last : c.isFreeze = true) :
    effective (c :: rest) = [] := by
  simp [effective, last]

theorem effective_cons {c : Change} (rest : List Change) (goesOn : c.isFreeze = false) :
    effective (c :: rest) = c :: effective rest := by
  simp [effective, goesOn]

/-- What changes in a row do to metadata that are open. -/
theorem exists_kept_of_after (changes : List Change) (isOpen : m.frozen = false)
    (h : KeepsFirst before m.directories) :
    ∃ kept, after m changes =
        { m with
          header := m.header.or ((effective changes).findSome? Change.header?)
          directories := kept
          records := m.records ++ (effective changes).filterMap Change.record?
          xmp := m.xmp.or ((effective changes).findSome? Change.tree?)
          frozen := changes.any Change.isFreeze } ∧
      m.directories <+: kept ∧
      KeepsFirst ((effective changes).foldl (fun before c => before ++ c.offers before) before)
        kept := by
  induction changes generalizing m before with
  | nil => exact ⟨m.directories, by simp [after, effective, ← isOpen], List.prefix_refl _, h⟩
  | cons c rest ih =>
      obtain ⟨first, state, more, keeps⟩ := c.exists_kept_of_perform isOpen h
      rw [after, List.foldl_cons, state]
      cases kind : c.isFreeze with
      | true =>
          -- Nothing happens after the metadata were frozen.
          obtain rfl := Change.eq_freeze kind
          refine ⟨first, ?_, more, by simpa [effective_of_freeze _ kind, Change.offers] using keeps⟩
          rw [effective_of_freeze _ kind]
          refine (after_of_frozen rest (by rfl)).trans ?_
          simp [Change.header?, Change.record?, Change.tree?, kind]
      | false =>
          obtain ⟨kept, states, most, keepsAll⟩ := ih (m :=
            { m with
              header := m.header.or c.header?
              directories := first
              records := m.records ++ c.record?.toList
              xmp := m.xmp.or c.tree?
              frozen := false }) rfl keeps
          rw [effective_cons rest kind]
          refine ⟨kept, states.trans ?_, more.trans most, keepsAll⟩
          simp [kind, Option.or_assoc, List.findSome?_cons, List.filterMap_cons]
          refine ⟨?_, ?_, ?_⟩
          · cases c.header? <;> rfl
          · cases c.record? <;> rfl
          · cases c.tree? <;> rfl

/-- Directories are never replaced or removed. -/
theorem prefix_after (changes : List Change) (h : KeepsFirst before m.directories) :
    m.directories <+: (after m changes).directories := by
  rcases Bool.eq_false_or_eq_true m.frozen with frozen | isOpen
  · simp [after_of_frozen changes frozen]
  · obtain ⟨kept, states, more, _⟩ := exists_kept_of_after changes isOpen h
    rw [states]
    exact more

/-- The answer tells whether the directory was added. -/
theorem run_addDirectory_cases (m : Metadata) (d : Directory) (strict : Bool) :
    ((addDirectory d strict).run m).1.result = .ok true ∧
        ((addDirectory d strict).run m).2 = { m with directories := m.directories ++ [d] } ∨
      ((addDirectory d strict).run m).1.result ≠ .ok true ∧
        ((addDirectory d strict).run m).2 = m := by
  rcases Bool.eq_false_or_eq_true m.frozen with frozen | isOpen
  · have run : (addDirectory d strict).run m = (Outcome.fail .frozen, m) :=
      Action.run_bind_of_error _ (run_requireOpen_of_frozen frozen)
    rw [run]
    exact .inr ⟨nofun, rfl⟩
  · by_cases known : d.id ∈ m.directories.map Directory.id
    · rw [run_addDirectory_of_known strict isOpen known]
      cases strict with
      | true => exact .inr ⟨nofun, rfl⟩
      | false => exact .inr ⟨nofun, rfl⟩
    · rw [run_addDirectory strict isOpen known]
      exact .inl ⟨rfl, rfl⟩

/-- The metadata are what the changes make of fresh ones. -/
structure IsHistory (format : String) (changes : List Change) (m : Metadata) : Prop where
  format_eq : m.format = format
  header_eq : m.header = (effective changes).findSome? Change.header?
  directories : KeepsFirst (offered changes) m.directories
  records_eq : m.records = (effective changes).filterMap Change.record?
  xmp_eq : m.xmp = (effective changes).findSome? Change.tree?
  /-- No further changes replace or remove a directory. -/
  grows (later : List Change) : m.directories <+: (after m later).directories
  /-- A single directory is stored exactly if the answer is that it was. -/
  answers (d : Directory) (strict : Bool) :
    ((addDirectory d strict).run m).1.result = .ok true ∧
        ((addDirectory d strict).run m).2 = { m with directories := m.directories ++ [d] } ∨
      ((addDirectory d strict).run m).1.result ≠ .ok true ∧
        ((addDirectory d strict).run m).2 = m
  /-- Once frozen, every change is refused, but to freeze again. -/
  refuses (c : Change) : .freeze ∈ changes → c.isFreeze = false →
    ∃ p, (c.perform.run m).1 = Outcome.fail p ∧ p.kind = .runtime
  /-- Once frozen, nothing changes. -/
  stays (later : List Change) : .freeze ∈ changes → after m later = m

/-- Whatever changes are asked of fresh metadata, whether or not they succeed, the first directory
for each place, the first header and the first tree stay, and nothing changes once the metadata are
frozen. A stream that was read is added whole, with no warning. -/
theorem isHistory_after (format : String) (changes : List Change) :
    IsHistory format changes (after (empty format) changes) ∧
      ∀ (bytes : Bytes) (base limit : Int) (readStrict : Bool) (stream : Tiff.Stream)
        (strict : Bool),
        (Tiff.Stream.read bytes base readStrict limit).result = .ok stream →
          (addStream stream strict).run (empty format) =
            (pure (), { empty format with
              header := some stream.header, directories := stream.directories }) := by
  obtain ⟨kept, state, _, keeps⟩ :=
    exists_kept_of_after (m := empty format) changes rfl KeepsFirst.nil
  have keepsFirst : KeepsFirst (offered changes) (after (empty format) changes).directories := by
    rw [state]
    exact keeps
  have frozen (asked : Change.freeze ∈ changes) : (after (empty format) changes).frozen = true := by
    rw [state]
    exact List.any_eq_true.2 ⟨.freeze, asked, rfl⟩
  refine ⟨{
    format_eq := by rw [state]; rfl
    header_eq := by rw [state]; rfl
    directories := keepsFirst
    records_eq := by rw [state]; rfl
    xmp_eq := by rw [state]; rfl
    grows := fun later => prefix_after later keepsFirst
    answers := run_addDirectory_cases _
    refuses := fun c asked mutator =>
      ⟨.frozen, congrArg Prod.fst (Change.run_perform_of_frozen mutator (frozen asked)), rfl⟩
    stays := fun later asked => after_of_frozen later (frozen asked) }, ?_⟩
  intro bytes base limit readStrict stream strict read
  exact run_addStream strict (IsFresh.empty format) (Tiff.Stream.distinct_of_read read)

/-- A stream with one directory. -/
def loneBytes : Bytes := [0x49, 0x49, 42, 0, 8, 0, 0, 0, 0, 0, 0, 0, 0, 0]

theorem read_lone :
    (Tiff.Stream.read loneBytes 0 true 32).result = .ok
      ⟨⟨.little, 42, false, 0, 8⟩, [⟨.ifd 0, 8, .little, [], 0, none, 0⟩]⟩ :=
  Tiff.Stream.read_of_walkWithin (n := 1) (by decide +kernel)

/-- The stream is read and added; it is refused when it is added again, and once more when the
metadata are frozen. -/
theorem isHistory_after_lone :
    ∃ stream, (Tiff.Stream.read loneBytes 0 true 32).result = .ok stream ∧
      stream.directories.length = 1 ∧
      (addStream stream true).run (empty "TIFF") =
        (pure (), ⟨"TIFF", some stream.header, stream.directories, [], none, false⟩) ∧
      IsHistory "TIFF"
        [.addStream stream true, .addStream stream true, .freeze, .addStream stream false]
        ⟨"TIFF", some stream.header, stream.directories, [], none, true⟩ := by
  refine ⟨_, read_lone, rfl, (isHistory_after "TIFF" []).2 loneBytes 0 32 true _ true read_lone, ?_⟩
  exact (isHistory_after "TIFF"
    [.addStream _ true, .addStream _ true, .freeze, .addStream _ false]).1

end ImageMetadata.Metadata
