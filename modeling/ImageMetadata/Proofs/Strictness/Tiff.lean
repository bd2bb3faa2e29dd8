import ImageMetadata.Proofs.Strictness.Basic
import ImageMetadata.Tiff.File

/-!
# Strict and lenient reading of TIFF streams

Each part of the reader agrees with itself in the two modes. The walk follows the same links up to
the first integrity problem; the problems inside a directory that is not the first one are caught,
but then a strict reader fails because of the directory.
-/

namespace ImageMetadata.Tiff

open Outcome (Agrees)

variable (bytes : Bytes)

theorem Header.agrees_read (base : Int) :
    (Header.read bytes base true).Agrees (Header.read bytes base false) := by
  apply (Agrees.require _ _).bind
  intro _
  dsimp only
  cases Header.orderOfMark? (bytes.slice base.toNat 2) with
  | none => exact .fail _
  | some order =>
      apply (Agrees.ofExcept _).bind
      intro version
      split
      · refine (Agrees.ofExcept _).bind fun size => (Agrees.ofExcept _).bind fun reserved => ?_
        exact (Agrees.require _ _).bind fun _ => (Agrees.ofExcept _).bind fun first => .pure _
      · exact (Agrees.check _ rfl).bind fun _ => (Agrees.ofExcept _).bind fun first => .pure _

variable (h : Header) (id : DirectoryId)

theorem agrees_readSlot (slot : Nat) :
    (readSlot bytes h true id slot).Agrees (readSlot bytes h false id slot) := by
  apply (Agrees.require _ _).bind
  intro _
  dsimp only
  cases id.family.name? (h.order.unsigned (bytes.slice slot 2)) with
  | none => exact .flag_pure rfl none
  | some name =>
      dsimp only
      split
      · exact .flag_pure rfl none
      cases FieldType.ofCode? (h.order.unsigned (bytes.slice (slot + 2) 2)) with
      | none => exact .fail _
      | some type =>
          dsimp only
          rcases locate bytes h slot
            (type.size * h.order.unsigned (bytes.slice (slot + 4) h.offsetSize)) with
            offset | ⟨offset, raw⟩
          · exact .flag_pure (by rfl) none
          · dsimp only
            split
            · exact .pure _
            · exact .fail _

theorem Entry.agrees_targets (e : Entry) : (e.targets true).Agrees (e.targets false) := by
  simp only [Entry.targets]
  cases Pointer.ofTag? e.tag with
  | none => exact .pure []
  | some pointer =>
      dsimp only
      split
      · cases pointer with
        | fixed id => exact .pure _
        | subIfd => exact .pure _
      · exact .flag_pure rfl []

theorem agrees_readEntry (slot : Nat) :
    (readEntry bytes h true id slot).Agrees (readEntry bytes h false id slot) := by
  apply (agrees_readSlot bytes h id slot).bind
  intro e
  cases e with
  | none => exact .pure none
  | some e => exact e.agrees_targets.bind fun links => .pure _

theorem agrees_readNext (position : Nat) :
    (readNext bytes h id position).Agrees (readNext bytes h id position) := by
  unfold readNext
  split
  · exact .pure _
  · exact (Agrees.trace _).bind fun _ => .pure 0

theorem agrees_readContents (position : Nat) :
    (readContents bytes h true id position).Agrees (readContents bytes h false id position) := by
  refine (Agrees.require _ _).bind fun _ => (Agrees.ofExcept _).bind fun count => ?_
  apply (Agrees.require _ _).bind
  intro _
  apply (Agrees.mapM (agrees_readEntry bytes h id) _).bind
  intro found
  exact (agrees_readNext bytes h id _).bind fun next => .pure _

namespace Source

variable (limit : Int) (w : Walk) (t : Task)

theorem agrees_follow (offset : Nat) :
    (follow ⟨bytes, h, true, limit⟩ t id offset).Agrees
      (follow ⟨bytes, h, false, limit⟩ t id offset) := by
  simp only [follow]
  split
  · exact .pure []
  split
  · cases id.next with
    | none => exact .flag_pure rfl []
    | some next => exact .pure _
  · split
    · exact .pure _
    · exact (Agrees.trace _).bind fun _ => .pure []

theorem agrees_open? :
    (open? ⟨bytes, h, true, limit⟩ w t id).Agrees (open? ⟨bytes, h, false, limit⟩ w t id) := by
  have contents := (agrees_readContents bytes h id
    (position ⟨bytes, h, true, limit⟩ t)).map some
  simp only [open?]
  split
  · exact contents
  · apply contents.rescue (fun cause => .flag_pure rfl none)
    intro cause
    exact ⟨.unreadableDirectory id t.link.offset cause, rfl, rfl⟩

theorem agrees_visit :
    (visit ⟨bytes, h, true, limit⟩ w t).Agrees (visit ⟨bytes, h, false, limit⟩ w t) := by
  simp only [visit]
  have accepted : accept ⟨bytes, h, true, limit⟩ w t = accept ⟨bytes, h, false, limit⟩ w t := rfl
  rw [accepted]
  cases hw : accept ⟨bytes, h, false, limit⟩ w t with
  | mk place w' =>
      cases place with
      | error p => exact .flag_pure (structural_of_accept hw) _
      | ok id =>
          apply (agrees_open? bytes h id limit w' t).bind
          intro contents?
          cases contents? with
          | none => exact .pure _
          | some contents =>
              apply (Agrees.trace _).bind
              intro _
              exact (agrees_follow bytes h id limit t contents.next).bind fun last => .pure _

theorem agrees_walk (stack : List Task) :
    (walk ⟨bytes, h, true, limit⟩ w stack).Agrees (walk ⟨bytes, h, false, limit⟩ w stack) := by
  induction w, stack using walk.induct ⟨bytes, h, false, limit⟩ with
  | case1 w =>
      rw [walk_nil, walk_nil]
      exact .pure w
  | case2 w t stack events p failed =>
      rw [walk_cons, walk_cons]
      apply (agrees_visit bytes h limit w t).bind_of_ok
      intro r visited
      simp [failed] at visited
  | case3 w t stack events w' tasks visited ih =>
      rw [walk_cons, walk_cons]
      apply (agrees_visit bytes h limit w t).bind_of_ok
      intro r visited'
      obtain rfl : (w', tasks) = r := by simpa [visited] using visited'
      exact ih

end Source

/-- A strict reader of a stream does what a lenient one does up to the first problem. -/
theorem Stream.agrees_read (base limit : Int) :
    (Stream.read bytes base true limit).Agrees (Stream.read bytes base false limit) := by
  refine (Header.agrees_read bytes base).bind fun header => (Agrees.require _ _).bind fun _ => ?_
  exact (Source.agrees_walk bytes header limit _ _).bind fun w => .pure _

end ImageMetadata.Tiff
