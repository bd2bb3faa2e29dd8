import ImageMetadata.Proofs.Recognition.Basic
import ImageMetadata.Tiff.File
import ImageMetadata.Xmp

/-!
# TIFF streams and XMP packets are recognized

No reader of a TIFF stream finds that its bytes are of another format, whatever they are, and no
reader of an XMP packet does. So neither does a container that holds them.
-/

namespace ImageMetadata

namespace Tiff

open Outcome (Recognizes)

variable (bytes : Bytes) (h : Header) (strict : Bool) (id : DirectoryId)

theorem recognizes_unsignedAt (order : ByteOrder) (position width : Nat) :
    (Outcome.ofExcept (unsignedAt bytes order position width)).Recognizes := by
  unfold unsignedAt
  split
  · exact .pure _
  · exact .fail (by nofun)

theorem Header.recognizes_read (base : Int) : (Header.read bytes base strict).Recognizes := by
  apply (Recognizes.require _ (by nofun)).bind
  intro _
  dsimp only
  cases Header.orderOfMark? (bytes.slice base.toNat 2) with
  | none => exact .fail (by nofun)
  | some order =>
      apply (recognizes_unsignedAt bytes order _ _).bind
      intro version
      split
      · apply (recognizes_unsignedAt bytes order _ _).bind
        intro size
        apply (recognizes_unsignedAt bytes order _ _).bind
        intro reserved
        apply (Recognizes.require _ (by nofun)).bind
        intro _
        exact (recognizes_unsignedAt bytes order _ _).bind fun first => .pure _
      · apply (Recognizes.check strict _ (by nofun)).bind
        intro _
        exact (recognizes_unsignedAt bytes order _ _).bind fun first => .pure _

theorem recognizes_readSlot (slot : Nat) : (readSlot bytes h strict id slot).Recognizes := by
  apply (Recognizes.require _ (by nofun)).bind
  intro _
  dsimp only
  cases id.family.name? (h.order.unsigned (bytes.slice slot 2)) with
  | none => exact .flag_pure strict (by nofun) none
  | some name =>
      dsimp only
      split
      · exact .flag_pure strict (by nofun) none
      cases FieldType.ofCode? (h.order.unsigned (bytes.slice (slot + 2) 2)) with
      | none => exact .fail (by nofun)
      | some type =>
          dsimp only
          rcases locate bytes h slot
            (type.size * h.order.unsigned (bytes.slice (slot + 4) h.offsetSize)) with
            offset | ⟨offset, raw⟩
          · exact .flag_pure strict (by nofun) none
          · dsimp only
            split
            · exact .pure _
            · exact .fail (by nofun)

theorem Entry.recognizes_targets (e : Entry) : (e.targets strict).Recognizes := by
  simp only [Entry.targets]
  cases Pointer.ofTag? e.tag with
  | none => exact .pure []
  | some pointer =>
      dsimp only
      split
      · cases pointer with
        | fixed id => exact .pure _
        | subIfd => exact .pure _
      · exact .flag_pure strict (by nofun) []

theorem recognizes_readEntry (slot : Nat) : (readEntry bytes h strict id slot).Recognizes := by
  apply (recognizes_readSlot bytes h strict id slot).bind
  intro e
  cases e with
  | none => exact .pure none
  | some e => exact (e.recognizes_targets strict).bind fun links => .pure _

theorem recognizes_readNext (position : Nat) : (readNext bytes h id position).Recognizes := by
  unfold readNext
  split
  · exact .pure _
  · exact (Recognizes.trace _).bind fun _ => .pure 0

theorem recognizes_readContents (position : Nat) :
    (readContents bytes h strict id position).Recognizes := by
  apply (Recognizes.require _ (by nofun)).bind
  intro _
  apply (recognizes_unsignedAt bytes _ _ _).bind
  intro count
  apply (Recognizes.require _ (by nofun)).bind
  intro _
  apply (Recognizes.mapM (recognizes_readEntry bytes h strict id) _).bind
  intro found
  exact (recognizes_readNext bytes h id _).bind fun next => .pure _

namespace Source

variable (s : Source) (w : Walk) (t : Task)

/-- A link is not refused for the format of the bytes. -/
theorem isOwn_of_accept {w' : Walk} {p : Problem} (refused : s.accept w t = (.error p, w')) :
    p.IsOwn := by
  unfold accept at refused
  split at refused
  · cases refused; nofun
  split at refused
  · cases refused; nofun
  split at refused
  · cases refused; nofun
  split at refused
  · cases refused; nofun
  · cases refused

theorem recognizes_follow (offset : Nat) : (s.follow t id offset).Recognizes := by
  unfold follow
  split
  · exact .pure []
  split
  · cases id.next with
    | none => exact .flag_pure s.strict (by nofun) []
    | some next => exact .pure _
  · split
    · exact .pure _
    · exact (Recognizes.trace _).bind fun _ => .pure []

theorem recognizes_open? : (s.open? w t id).Recognizes := by
  unfold open?
  split
  · exact (recognizes_readContents s.bytes s.header s.strict id (s.position t)).map some
  · exact .rescue fun cause => .flag_pure s.strict (by nofun) none

theorem recognizes_visit : (s.visit w t).Recognizes := by
  unfold visit
  rcases hw : s.accept w t with ⟨p | id, w'⟩
  · exact .flag_pure s.strict (s.isOwn_of_accept w t hw) _
  · apply (s.recognizes_open? id w' t).bind
    intro contents?
    cases contents? with
    | none => exact .pure _
    | some contents =>
        apply (Recognizes.trace _).bind
        intro _
        exact (s.recognizes_follow id t contents.next).bind fun last => .pure _

theorem recognizes_walk (stack : List Task) : (s.walk w stack).Recognizes := by
  induction w, stack using walk.induct s with
  | case1 w =>
      rw [walk_nil]
      exact .pure w
  | case2 w t stack events p failed =>
      have visit := s.recognizes_visit w t
      rw [failed] at visit
      rw [walk_cons, failed, Outcome.bind_of_error _ rfl]
      exact fun q ended => visit q (congrArg Except.error (Except.error.inj ended))
  | case3 w t stack events w' tasks visited ih =>
      rw [walk_cons, visited, Outcome.bind_of_ok _ rfl]
      exact ih

end Source

theorem Stream.recognizes_read (base limit : Int) :
    (Stream.read bytes base strict limit).Recognizes := by
  apply (Header.recognizes_read bytes strict base).bind
  intro header
  apply (Recognizes.require _ (by nofun)).bind
  intro _
  exact (Source.recognizes_walk _ _ _).bind fun w => .pure _

end Tiff

open ImageMetadata.Action (Recognizes)

namespace Metadata

theorem recognizes_requireOpen : Recognizes requireOpen := by
  apply Recognizes.state_bind
  intro m
  split
  · exact .fail (by nofun)
  · exact .pure ()

theorem recognizes_addDirectory (d : Tiff.Directory) (strict : Bool) :
    Recognizes (addDirectory d strict) := by
  refine recognizes_requireOpen.bind fun _ => .state_bind fun m => ?_
  split
  · exact (Recognizes.lift (.flag strict (by nofun))).bind fun _ => .pure false
  · exact (Recognizes.update _).bind fun _ => .pure true

theorem recognizes_addStream (stream : Tiff.Stream) (strict : Bool) :
    Recognizes (addStream stream strict) := by
  refine recognizes_requireOpen.bind fun _ => (Recognizes.update _).bind fun _ => ?_
  exact .each (fun d => (recognizes_addDirectory d strict).map _) stream.directories

theorem recognizes_addRecord (r : TextRecord) : Recognizes (addRecord r) :=
  recognizes_requireOpen.bind fun _ => .update _

theorem recognizes_setXmp (tree : Option Xml.Document) : Recognizes (setXmp tree) :=
  recognizes_requireOpen.bind fun _ => .update _

theorem recognizes_collect (format : Format) {fill : Action Metadata Unit} (h : Recognizes fill) :
    (collect format fill).Recognizes :=
  have frozen : Recognizes (do fill; freeze) := h.bind fun _ => .update _
  (frozen (empty format.name)).map _

end Metadata

namespace Tiff

variable (policy : Policy)

theorem recognizes_collect (bytes : Bytes) : Recognizes (collect bytes policy) := by
  apply (Recognizes.lift (Stream.recognizes_read bytes policy.strict 0 policy.limit)).bind
  exact fun stream => Metadata.recognizes_addStream stream policy.strict

theorem recognizes_collect? (stream : Option Bytes) : Recognizes (collect? stream policy) := by
  cases stream with
  | none => exact .pure ()
  | some bytes => exact recognizes_collect policy bytes

theorem recognizes_metadata (bytes : Bytes) : (metadata bytes policy).Recognizes :=
  Metadata.recognizes_collect .tiff (recognizes_collect policy bytes)

end Tiff

namespace Xmp

theorem recognizes_read (packet : Bytes) : (Xmp.read packet).Recognizes := by
  unfold Xmp.read
  split
  · exact .pure _
  · exact (Outcome.Recognizes.notify _).bind fun _ => .pure none

theorem recognizes_collect (packet : Bytes) : Recognizes (Xmp.collect packet) := by
  apply (Recognizes.lift (recognizes_read packet)).bind
  intro tree
  cases tree with
  | none => exact .pure ()
  | some tree => exact Metadata.recognizes_setXmp _

theorem recognizes_collect? (packet : Option Bytes) : Recognizes (Xmp.collect? packet) := by
  cases packet with
  | none => exact .pure ()
  | some packet => exact recognizes_collect packet

end Xmp

end ImageMetadata
