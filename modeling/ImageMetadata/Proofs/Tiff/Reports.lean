import ImageMetadata.Proofs.Reports
import ImageMetadata.Tiff.File

/-!
# What is reported about a TIFF stream

Whatever container a stream stands in, the reports of its reader are about directories, their links
and their entries, or about the version in the header. So they name no place in the container.
-/

namespace ImageMetadata

/-- Whether a problem is one of a TIFF stream after which a reader goes on. -/
def Problem.isOfTiff : Problem → Bool
  | tiffVersion _ | revisited _ | directoryTooDeep .. | tooManySubIfds _ | secondDirectory ..
  | unreadableDirectory .. | chainTooLong _ | unknownTag .. | fieldTypeCode .. | valueOutside ..
  | pointerType .. | duplicateDirectory .. => true
  | _ => false

/-- Whether an event is one of a TIFF stream. -/
def Event.isOfTiff : Event → Bool
  | notice (.integrity p) => p.isOfTiff
  | trace (.directoryRead ..) | trace (.nextIgnored _) | trace (.nextOutside _) => true
  | _ => false

namespace Tiff

/-- Every report is one of a TIFF stream. -/
abbrev IsOfTiff (event : Event) : Prop := event.isOfTiff = true

open Outcome (Reports)

variable (bytes : Bytes) (h : Header) (strict : Bool) (id : DirectoryId)

theorem Header.reports_read (base : Int) : (Header.read bytes base strict).Reports IsOfTiff := by
  apply (Reports.require _ _).bind
  intro _
  dsimp only
  cases Header.orderOfMark? (bytes.slice base.toNat 2) with
  | none => exact .fail _
  | some order =>
      apply (Reports.ofExcept _).bind
      intro version
      split
      · refine (Reports.ofExcept _).bind fun size => (Reports.ofExcept _).bind fun reserved => ?_
        exact (Reports.require _ _).bind fun _ => (Reports.ofExcept _).bind fun first => .pure _
      · refine Reports.bind (.check strict _ (by rfl)) fun _ => ?_
        exact (Reports.ofExcept _).bind fun first => .pure _

theorem reports_readSlot (slot : Nat) : (readSlot bytes h strict id slot).Reports IsOfTiff := by
  apply (Reports.require _ _).bind
  intro _
  dsimp only
  cases id.family.name? (h.order.unsigned (bytes.slice slot 2)) with
  | none => exact .flag_pure strict (by rfl) none
  | some name =>
      dsimp only
      split
      · exact .flag_pure strict (by rfl) none
      cases FieldType.ofCode? (h.order.unsigned (bytes.slice (slot + 2) 2)) with
      | none => exact .fail _
      | some type =>
          dsimp only
          rcases locate bytes h slot
            (type.size * h.order.unsigned (bytes.slice (slot + 4) h.offsetSize)) with
            offset | ⟨offset, raw⟩
          · exact .flag_pure strict (by rfl) none
          · dsimp only
            split
            · exact .pure _
            · exact .fail _

theorem Entry.reports_targets (e : Entry) : (e.targets strict).Reports IsOfTiff := by
  simp only [Entry.targets]
  cases Pointer.ofTag? e.tag with
  | none => exact .pure []
  | some pointer =>
      dsimp only
      split
      · cases pointer with
        | fixed id => exact .pure _
        | subIfd => exact .pure _
      · exact .flag_pure strict (by rfl) []

theorem reports_readEntry (slot : Nat) : (readEntry bytes h strict id slot).Reports IsOfTiff := by
  apply (reports_readSlot bytes h strict id slot).bind
  intro e
  cases e with
  | none => exact .pure none
  | some e => exact (e.reports_targets strict).bind fun links => .pure _

theorem reports_readNext (position : Nat) : (readNext bytes h id position).Reports IsOfTiff := by
  unfold readNext
  split
  · exact .pure _
  · exact .trace_bind (by rfl) (.pure 0)

theorem reports_readContents (position : Nat) :
    (readContents bytes h strict id position).Reports IsOfTiff := by
  refine (Reports.require _ _).bind fun _ => (Reports.ofExcept _).bind fun count => ?_
  apply (Reports.require _ _).bind
  intro _
  apply (Reports.mapM (reports_readEntry bytes h strict id) _).bind
  intro found
  exact (reports_readNext bytes h id _).bind fun next => .pure _

namespace Source

variable (s : Source) (w : Walk) (t : Task)

/-- A link is refused for a problem of the stream. -/
theorem isOfTiff_of_accept {w' : Walk} {p : Problem} (refused : s.accept w t = (.error p, w')) :
    p.isOfTiff = true := by
  unfold accept at refused
  split at refused
  · cases refused; rfl
  split at refused
  · cases refused; rfl
  split at refused
  · cases refused; rfl
  split at refused
  · cases refused; rfl
  · cases refused

theorem reports_follow (offset : Nat) : (s.follow t id offset).Reports IsOfTiff := by
  unfold follow
  split
  · exact .pure []
  split
  · cases id.next with
    | none => exact .flag_pure s.strict (by rfl) []
    | some next => exact .pure _
  · split
    · exact .pure _
    · exact .trace_bind (by rfl) (.pure [])

theorem reports_open? : (s.open? w t id).Reports IsOfTiff := by
  have contents := (reports_readContents s.bytes s.header s.strict id (s.position t)).map some
  unfold open?
  split
  · exact contents
  · exact contents.rescue fun cause => .flag_pure s.strict (by rfl) none

theorem reports_visit : (s.visit w t).Reports IsOfTiff := by
  unfold visit
  cases hw : s.accept w t with
  | mk place w' =>
      cases place with
      | error p =>
          exact .flag_pure s.strict (s.isOfTiff_of_accept w t hw) _
      | ok id =>
          apply (s.reports_open? id w' t).bind
          intro contents?
          cases contents? with
          | none => exact .pure _
          | some contents =>
              apply Reports.trace_bind (by rfl)
              exact (s.reports_follow id t contents.next).bind fun last => .pure _

theorem reports_walk (stack : List Task) : (s.walk w stack).Reports IsOfTiff := by
  induction w, stack using walk.induct s with
  | case1 w =>
      rw [walk_nil]
      exact .pure w
  | case2 w t stack events p failed =>
      have first := s.reports_visit w t
      rw [failed] at first
      rw [walk_cons, failed, Outcome.bind_of_error _ rfl]
      exact ⟨first.of_mem⟩
  | case3 w t stack events w' tasks visited ih =>
      have first := s.reports_visit w t
      rw [visited] at first
      rw [walk_cons, visited, Outcome.bind_of_ok _ rfl]
      exact first.append ih

end Source

/-- Every report of the reader is one of a TIFF stream. -/
theorem Stream.reports_read (base limit : Int) :
    (Stream.read bytes base strict limit).Reports IsOfTiff := by
  refine (Header.reports_read bytes strict base).bind fun header => ?_
  refine (Reports.require _ _).bind fun _ => ?_
  exact (Source.reports_walk _ _ _).bind fun w => .pure _

/-- So is every report where the directories are added to those of the container. -/
theorem reports_collect (policy : Policy) :
    Action.Reports IsOfTiff (Tiff.collect bytes policy) := by
  apply (Action.Reports.lift (Stream.reports_read bytes policy.strict 0 policy.limit)).bind
  intro stream
  exact Metadata.reports_addStream fun d => rfl

end Tiff

end ImageMetadata
