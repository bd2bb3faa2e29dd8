import ImageMetadata.Proofs.Heif.Extents
import ImageMetadata.Proofs.Reports

/-!
# XMP items that cannot be read

Only the boxes, the Exif item and its TIFF stream decide whether a lenient reader returns metadata,
and with which header and directories. The item of the XMP packet is looked for afterwards. Whatever
it looks like, its location, its extents or its packet, it adds at most one warning and a tree.
-/

namespace ImageMetadata.Heif

open ImageMetadata.Action (IsQuiet Yields)

namespace Session

theorem isQuiet_find? (id : Bytes) : IsQuiet (find? id) := .state_bind fun _ => .pure _

theorem isQuiet_itemBoxes : IsQuiet itemBoxes := by
  refine (isQuiet_find? _).bind fun information => (isQuiet_find? _).bind fun location => ?_
  split
  · exact .fail _
  · exact .fail _
  · exact .pure _

theorem isQuiet_findItem (condition : ItemBox → Bool) : IsQuiet (findItem condition) :=
  isQuiet_itemBoxes.bind fun _ => .pure _

theorem isQuiet_location (item : Int) : IsQuiet (location item) := by
  refine isQuiet_itemBoxes.bind fun boxes => ?_
  dsimp only
  split
  · split
    · exact .pure _
    · exact .fail _
  · exact .fail _

theorem isQuiet_range? (l : Location) : IsQuiet (range? l) := by
  unfold range?
  split
  · exact .state_bind fun _ => .pure _
  split
  · refine (isQuiet_find? _).bind fun box => ?_
    cases box with
    | none => exact .fail _
    | some box => exact .pure _
  · exact .pure _

theorem isQuiet_reading {α : Type} (x : Reading α) : IsQuiet (reading x) := by
  refine ⟨fun s => .of_silent ?_⟩
  cases run : x.run s.cursor with
  | ok a c => simp [reading, Action.run, run, Outcome.pure]
  | error p c => simp [reading, Action.run, run, Outcome.fail]

variable {s : Session} {item : Int} {skipHeader : Bool}

/-- The data of an item is not found, or found, or a lenient reader warns that it is stored in a way
that cannot be read. -/
theorem itemData_cases (item : Int) (skipHeader : Bool) (s : Session) :
    (∃ p, ((itemData item skipHeader).run s).1 = Outcome.fail p) ∨
      (∃ data, ((itemData item skipHeader).run s).1 = pure (some data)) ∨
      ∃ l, s.Locates item l ∧ 2 ≤ l.method ∧ s.strict = false ∧
        ((itemData item skipHeader).run s).1 =
          ⟨[.notice (.integrity (.constructionMethod item l.method))], .ok none⟩ := by
  unfold itemData
  rcases (isQuiet_location item).run_bind_cases _ s with failed | ⟨l, _, found, run⟩
  · exact .inl failed
  obtain ⟨located, rfl⟩ := of_yields_location found
  rw [run]
  rcases IsQuiet.run_bind_cases (.require _ _) _ s with failed | ⟨_, _, required, run⟩
  · exact .inl failed
  obtain ⟨_, rfl⟩ := Yields.require_iff.1 required
  rw [run]
  rcases (isQuiet_range? l).run_bind_cases _ s with failed | ⟨range, _, found, run⟩
  · exact .inl failed
  obtain ⟨_, elsewhere, rfl⟩ := of_yields_range? located found
  rw [run]
  cases range with
  | none =>
      dsimp only
      rw [Action.run_state_bind]
      cases strict : s.strict with
      | true => exact .inl ⟨_, rfl⟩
      | false => exact .inr (.inr ⟨l, located, elsewhere rfl, rfl, rfl⟩)
  | some range =>
      dsimp only
      rcases (isQuiet_reading _).run_bind_cases _ s with failed | ⟨data, _, _, run⟩
      · exact .inl failed
      · rw [run]
        exact .inr (.inl ⟨data, rfl⟩)

/-- The first description of an item that satisfies a condition is the one in the box that describes
the items. -/
theorem of_yields_findItem {condition : ItemBox → Bool} {found : Option ItemBox}
    {t : Session} (h : Yields (findItem condition) s found t) :
    ∃ information, Box.find? (Bytes.ascii "iinf") s.boxes = some information ∧
      firstItem? condition information = found ∧ s = t := by
  obtain ⟨boxes, _, read, h⟩ := Yields.bind_iff.1 h
  obtain ⟨described, _, rfl⟩ := of_yields_itemBoxes read
  obtain ⟨rfl, same⟩ := Yields.pure_iff.1 h
  exact ⟨boxes.1, described, rfl, same⟩

/-- What a lenient reader reports of the XMP packet, and the tree that it keeps. -/
inductive XmpReading (s : Session) : List Event → Option Xml.Document → Prop
  /-- No item holds a packet. -/
  | absent {information : Box} (described : Box.find? (Bytes.ascii "iinf") s.boxes = some information)
      (unlisted : firstItem? isXmp information = none) : XmpReading s [] none
  /-- The item cannot be found or located, or its extents cannot be read. -/
  | unreadable {p : Problem} (failed : (xmpPacket.run s).1 = Outcome.fail p)
      (structural : p.isStructural = true) :
      XmpReading s [.notice (.integrity (.unreadableXmp p))] none
  /-- The item is stored in a way that cannot be read. -/
  | unsupported {information : Box} {i : ItemBox} {l : Location}
      (described : Box.find? (Bytes.ascii "iinf") s.boxes = some information)
      (listed : firstItem? isXmp information = some i)
      (located : s.Locates i.item l) (method : 2 ≤ l.method) :
      XmpReading s [.notice (.integrity (.constructionMethod i.item l.method))] none
  /-- The packet is not well formed. -/
  | malformed {packet : Bytes} (read : (xmpPacket.run s).1 = pure (some packet))
      (refused : Xml.Document.ofBytes? (packet.trimEnd Xmp.isPadding) = none) :
      XmpReading s [.notice .malformedXmp] none
  | kept {packet : Bytes} {tree : Xml.Document} (read : (xmpPacket.run s).1 = pure (some packet))
      (parsed : Xml.Document.ofBytes? (packet.trimEnd Xmp.isPadding) = some tree) :
      XmpReading s [] (some tree)

/-- The packet is not found, or there is none, or it is found, or a lenient reader warns that it is
stored in a way that cannot be read. -/
theorem xmpPacket_cases (s : Session) :
    (∃ p, (xmpPacket.run s).1 = Outcome.fail p) ∨
      (∃ information, Box.find? (Bytes.ascii "iinf") s.boxes = some information ∧
        firstItem? isXmp information = none ∧ (xmpPacket.run s).1 = pure none) ∨
      (∃ packet, (xmpPacket.run s).1 = pure (some packet)) ∨
      ∃ information i l,
        Box.find? (Bytes.ascii "iinf") s.boxes = some information ∧
        firstItem? isXmp information = some i ∧ s.Locates i.item l ∧
        2 ≤ l.method ∧ s.strict = false ∧
        (xmpPacket.run s).1 =
          ⟨[.notice (.integrity (.constructionMethod i.item l.method))], .ok none⟩ := by
  unfold xmpPacket
  rcases (isQuiet_findItem isXmp).run_bind_cases _ s with failed | ⟨found, _, search, run⟩
  · exact .inl failed
  obtain ⟨information, described, listed, rfl⟩ := of_yields_findItem search
  rw [run]
  rcases found with _ | i
  · exact .inr (.inl ⟨information, described, listed, rfl⟩)
  · rcases itemData_cases i.item false s with failed | found | ⟨l, located, method, lenient, run⟩
    · exact .inl failed
    · exact .inr (.inr (.inl found))
    · exact .inr (.inr (.inr ⟨information, i, l, described, listed, located, method,
        lenient, run⟩))

end Session

variable {s : Session} {m : Metadata}

/-- A lenient reader warns of a packet that it cannot read, and goes on without it. -/
theorem packet?_of_fail {p : Problem} (failed : (Session.xmpPacket.run s).1 = Outcome.fail p)
    (structural : p.isStructural = true) :
    packet? s false = ⟨[.notice (.integrity (.unreadableXmp p))], .ok none⟩ := by
  rw [packet?, failed]
  simp only [Outcome.rescue, Outcome.fail, structural]
  rfl

theorem packet?_of_ok {reports : List Event} {packet : Option Bytes} (strict : Bool)
    (found : (Session.xmpPacket.run s).1 = ⟨reports, .ok packet⟩) :
    packet? s strict = ⟨reports, .ok packet⟩ := by
  rw [packet?, found]
  rfl

/-- What is done about the packet, once it is looked for. -/
def collectPacket (s : Session) (strict : Bool) : Action Metadata Unit := do
  Xmp.collect? (← (packet? s strict : Outcome (Option Bytes)))

theorem run_collectPacket {reports : List Event} {packet : Option Bytes} {strict : Bool}
    (found : packet? s strict = ⟨reports, .ok packet⟩) :
    (collectPacket s strict).run m =
      (⟨reports ++ ((Xmp.collect? packet).run m).1.events,
        ((Xmp.collect? packet).run m).1.result⟩, ((Xmp.collect? packet).run m).2) :=
  Action.run_bind_of_ok _ (congrArg (fun x => (x, m)) found)

/-- A lenient reader always comes to an end with the packet, and changes nothing but the tree. -/
theorem exists_xmpReading (ready : s.IsReady) (isOpen : m.frozen = false) (free : m.xmp = none) :
    ∃ later tree, s.XmpReading later tree ∧
      (collectPacket s false).run m = (⟨later, .ok ()⟩, { m with xmp := tree }) := by
  have same : { m with xmp := none } = m := by rw [← free]
  rcases s.xmpPacket_cases with ⟨p, failed⟩ | ⟨information, described, unlisted, run⟩ |
      ⟨packet, read⟩ | ⟨information, i, l, described, listed, located, method, _, run⟩
  · have ends := Session.ends_xmpPacket s ready
    rw [failed] at ends
    refine ⟨_, _, .unreadable failed ends, ?_⟩
    rw [run_collectPacket (packet?_of_fail failed ends), same]
    rfl
  · refine ⟨_, _, .absent described unlisted, ?_⟩
    rw [run_collectPacket (packet?_of_ok false run), same]
    rfl
  · cases parsed : Xml.Document.ofBytes? (packet.trimEnd Xmp.isPadding) with
    | none =>
        refine ⟨_, _, .malformed read parsed, ?_⟩
        rw [run_collectPacket (packet?_of_ok false read), Xmp.collect?,
          Xmp.run_collect_of_none parsed, same]
        rfl
    | some tree =>
        have kept : (Metadata.setXmp (some tree)).run m = (pure (), { m with xmp := some tree }) := by
          rw [Metadata.setXmp, Action.run_bind_of_pure _ (Metadata.run_requireOpen isOpen),
            Action.run_update, free]
          rfl
        refine ⟨_, _, .kept read parsed, ?_⟩
        rw [run_collectPacket (packet?_of_ok false read), Xmp.collect?,
          Xmp.run_collect_of_some parsed, kept]
        rfl
  · refine ⟨_, _, .unsupported described listed located method, ?_⟩
    rw [run_collectPacket (packet?_of_ok false run), same]
    rfl

/-- The TIFF stream of a payload, if there is a payload. -/
def streamOf? (policy : Policy) : Option Bytes → Outcome (Option Tiff.Stream)
  | none => return none
  | some payload => return some (← Tiff.Stream.read payload 0 policy.strict policy.limit)

/-- The TIFF stream of the Exif item of a file, if there is such an item. It is looked for where the
boxes were read, and the XMP item is not. -/
def exifStream? (bytes : Bytes) (policy : Policy) : Outcome (Option Tiff.Stream) := do
  let (outcome, s) := (Session.readAll policy.limit).run (Session.start bytes policy.strict)
  outcome
  streamOf? policy (← (Session.exifPayload.run s).1)

theorem exifStream?_eq (bytes : Bytes) (policy : Policy) :
    exifStream? bytes policy =
      ((Session.readAll policy.limit).run (Session.start bytes policy.strict)).1 >>= fun _ =>
        (Session.exifPayload.run
          ((Session.readAll policy.limit).run (Session.start bytes policy.strict)).2).1 >>=
            streamOf? policy := rfl

/-- Metadata with a header and directories, if there is a stream. -/
def withStream (m : Metadata) : Option Tiff.Stream → Metadata
  | none => m
  | some t => { m with header := some t.header, directories := t.directories }

variable {policy : Policy} {payload : Option Bytes} {reports : List Event} {p : Problem}
  {stream : Option Tiff.Stream}

theorem run_collectPayload_of_error (failed : streamOf? policy payload = ⟨reports, .error p⟩) :
    (Tiff.collect? payload policy).run m = (⟨reports, .error p⟩, m) := by
  cases payload with
  | none => cases failed
  | some bytes =>
      cases read : Tiff.Stream.read bytes 0 policy.strict policy.limit with
      | mk events result =>
          rw [streamOf?, read] at failed
          cases result with
          | ok t => cases failed
          | error q =>
              cases failed
              rw [Tiff.collect?, Metadata.run_collectTiff_of_error read]

theorem run_collectPayload_of_ok (fresh : m.IsFresh)
    (read : streamOf? policy payload = ⟨reports, .ok stream⟩) :
    (Tiff.collect? payload policy).run m = (⟨reports, .ok ()⟩, withStream m stream) := by
  cases payload with
  | none =>
      cases read
      rfl
  | some bytes =>
      cases parsed : Tiff.Stream.read bytes 0 policy.strict policy.limit with
      | mk events result =>
          rw [streamOf?, parsed] at read
          cases result with
          | error q => cases read
          | ok t =>
              cases read
              rw [Tiff.collect?, Metadata.run_collectTiff_of_ok fresh parsed, withStream]
              simp

/-- Where the Exif item cannot be read, nothing else is looked for. -/
theorem run_collect_of_error
    (failed : ((Session.exifPayload.run s).1 >>= streamOf? policy) = ⟨reports, .error p⟩) :
    (collect s policy).run m = (⟨reports, .error p⟩, m) := by
  cases item : (Session.exifPayload.run s).1 with
  | mk events result =>
      have first : (Action.lift (Session.exifPayload.run s).1).run m = (⟨events, result⟩, m) := by
        rw [item]
        rfl
      rw [item] at failed
      rw [collect_eq]
      cases result with
      | error q =>
          cases failed
          exact Action.run_bind_of_error _ first
      | ok payload =>
          cases read : streamOf? policy payload with
          | mk events' result =>
              rw [Outcome.bind_of_ok _ rfl, read] at failed
              cases failed
              exact Action.run_bind_eq first
                (Action.run_bind_of_error _ (run_collectPayload_of_error read))

/-- Where it can be read, what it holds is collected, and then the packet is looked for. -/
theorem run_collect_of_ok (free : s.cursor.mark = none) (fresh : m.IsFresh)
    (read : ((Session.exifPayload.run s).1 >>= streamOf? policy) = ⟨reports, .ok stream⟩) :
    (collect s policy).run m =
      (⟨reports ++ ((collectPacket s policy.strict).run (withStream m stream)).1.events,
        ((collectPacket s policy.strict).run (withStream m stream)).1.result⟩,
        ((collectPacket s policy.strict).run (withStream m stream)).2) := by
  have session : (Session.exifPayload.run s).2 = s := Session.keeps_exifPayload free s rfl
  obtain ⟨payload, events, events', item, parsed, rfl⟩ := Outcome.bind_eq_iff.1 read
  have first : (Action.lift (Session.exifPayload.run s).1).run m = (⟨events, .ok payload⟩, m) := by
    rw [item]
    rfl
  rw [collect_eq, session, List.append_assoc]
  exact Action.run_bind_eq first
    (Action.run_bind_of_ok _ (run_collectPayload_of_ok fresh parsed))

/-- What decides how a lenient reader ends. -/
structure SparesExif (bytes : Bytes) (limit : Int) : Prop where
  /-- It fails exactly as reading the boxes, the Exif item or its stream fails. -/
  fails_iff {p : Problem} : (metadata bytes ⟨false, limit⟩).result = .error p ↔
    ((Session.readAll limit).run (Session.start bytes false)).1.result = .error p ∨
      ∃ s, Yields (Session.readAll limit) (Session.start bytes false) () s ∧
        ((Session.exifPayload.run s).1.result = .error p ∨
          ∃ payload, (Session.exifPayload.run s).1.result = .ok (some payload) ∧
            (Tiff.Stream.read payload 0 false limit).result = .error p)
  /-- Then it reports what was reported before the failure. -/
  failed {p : Problem} : (exifStream? bytes ⟨false, limit⟩).result = .error p →
    metadata bytes ⟨false, limit⟩ = ⟨(exifStream? bytes ⟨false, limit⟩).events, .error p⟩
  /-- Otherwise it returns what the stream holds. Of the XMP item there are at most a warning and a
  tree. -/
  returned {stream : Option Tiff.Stream} :
    (exifStream? bytes ⟨false, limit⟩).result = .ok stream →
    ∃ s later tree, Yields (Session.readAll limit) (Session.start bytes false) () s ∧
      s.XmpReading later tree ∧
      metadata bytes ⟨false, limit⟩ =
        ⟨(exifStream? bytes ⟨false, limit⟩).events ++ later,
          .ok
            { format := Format.heif.name
              header := stream.map Tiff.Stream.header
              directories := (stream.map Tiff.Stream.directories).getD []
              records := []
              xmp := tree
              frozen := true }⟩

theorem streamOf?_error_iff :
    (streamOf? policy payload).result = .error p ↔
      ∃ bytes, payload = some bytes ∧
        (Tiff.Stream.read bytes 0 policy.strict policy.limit).result = .error p := by
  cases payload with
  | none => simp [streamOf?]
  | some bytes =>
      refine Outcome.result_bind_error_iff.trans ?_
      simp

/-- One of three steps fails where the stream of the Exif item cannot be read. -/
theorem exifStream?_error_iff {bytes : Bytes} :
    (exifStream? bytes policy).result = .error p ↔
      ((Session.readAll policy.limit).run (Session.start bytes policy.strict)).1.result =
          .error p ∨
        ∃ s, Yields (Session.readAll policy.limit) (Session.start bytes policy.strict) () s ∧
          ((Session.exifPayload.run s).1.result = .error p ∨
            ∃ payload, (Session.exifPayload.run s).1.result = .ok (some payload) ∧
              (Tiff.Stream.read payload 0 policy.strict policy.limit).result = .error p) := by
  refine Outcome.result_bind_error_iff.trans (or_congr_right ?_)
  rw [Outcome.result_bind_error_iff]
  constructor
  · rintro ⟨_, read, failed | ⟨payload, item, failed⟩⟩
    · exact ⟨_, ⟨read, rfl⟩, .inl failed⟩
    · obtain ⟨bytes, rfl, unread⟩ := streamOf?_error_iff.1 failed
      exact ⟨_, ⟨read, rfl⟩, .inr ⟨bytes, item, unread⟩⟩
  · rintro ⟨_, ⟨read, rfl⟩, failed | ⟨bytes, item, failed⟩⟩
    · exact ⟨(), read, .inl failed⟩
    · exact ⟨(), read, .inr ⟨_, item, streamOf?_error_iff.2 ⟨bytes, rfl, failed⟩⟩⟩

theorem metadata_of_exif_error {bytes : Bytes}
    (failed : (exifStream? bytes policy).result = .error p) :
    metadata bytes policy = ⟨(exifStream? bytes policy).events, .error p⟩ := by
  rw [exifStream?_eq] at failed ⊢
  rw [metadata_eq]
  rcases Outcome.result_bind_error_iff.1 failed with unread | ⟨_, read, failed⟩
  · rw [Outcome.bind_of_error _ unread, Outcome.bind_of_error _ unread]
  · have run := run_collect_of_error (m := Metadata.empty Format.heif.name)
      (Outcome.ext rfl failed)
    have collected := Metadata.collect_of_error (congrArg (fun r => r.1.result) run)
    rw [Outcome.bind_of_ok _ read, Outcome.bind_of_ok _ read, collected, run]

theorem exists_metadata_of_exif_ok {bytes : Bytes} {limit : Int}
    (found : (exifStream? bytes ⟨false, limit⟩).result = .ok stream) :
    ∃ s later tree, Yields (Session.readAll limit) (Session.start bytes false) () s ∧
      s.XmpReading later tree ∧
      metadata bytes ⟨false, limit⟩ =
        ⟨(exifStream? bytes ⟨false, limit⟩).events ++ later,
          .ok
            { format := Format.heif.name
              header := stream.map Tiff.Stream.header
              directories := (stream.map Tiff.Stream.directories).getD []
              records := []
              xmp := tree
              frozen := true }⟩ := by
  rw [exifStream?_eq] at found ⊢
  obtain ⟨_, read, found⟩ := Outcome.result_bind_iff.1 found
  have ready := Session.ends_readAll limit (Session.start bytes false) rfl
  unfold Outcome.Ends at ready
  rw [read] at ready
  have untouched : (withStream (Metadata.empty Format.heif.name) stream).frozen = false ∧
      (withStream (Metadata.empty Format.heif.name) stream).xmp = none := by
    cases stream with
    | none | some => exact ⟨rfl, rfl⟩
  obtain ⟨later, tree, reading, packet⟩ :=
    exists_xmpReading ready.1 untouched.1 untouched.2
  have run := run_collect_of_ok ready.1.unmarked (.empty Format.heif.name) (Outcome.ext rfl found)
  rw [packet] at run
  have collected := Metadata.collect_of_ok (congrArg (fun r => r.1.result) run)
  rw [run] at collected
  refine ⟨_, later, tree, ⟨read, rfl⟩, reading, ?_⟩
  rw [metadata_eq, Outcome.bind_of_ok _ read, Outcome.bind_of_ok _ read, collected,
    List.append_assoc]
  cases stream with
  | none | some => rfl

/-- However its XMP item looks, a HEIF file is returned with what its Exif item holds, if that can be
read. -/
theorem sparesExif (bytes : Bytes) (limit : Int) : SparesExif bytes limit where
  fails_iff := by
    intro p
    have step : (exifStream? bytes ⟨false, limit⟩).result = .error p ↔ _ := exifStream?_error_iff
    refine Iff.trans ⟨fun failed => ?_, fun failed => ?_⟩ step
    · cases found : (exifStream? bytes ⟨false, limit⟩).result with
      | error q =>
          rw [metadata_of_exif_error found] at failed
          cases failed
          rfl
      | ok stream =>
          obtain ⟨s, later, tree, _, _, returned⟩ := exists_metadata_of_exif_ok found
          rw [returned] at failed
          cases failed
    · rw [metadata_of_exif_error failed]
  failed := metadata_of_exif_error
  returned := exists_metadata_of_exif_ok

end ImageMetadata.Heif
