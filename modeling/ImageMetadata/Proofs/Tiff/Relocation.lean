import ImageMetadata.Proofs.Notices
import ImageMetadata.Tiff.Stream

/-!
# Streams behind other bytes

The offsets in a stream count from its header, while the positions of directories and values count
from the start of all bytes. So where a stream stands behind other bytes, each position in what is
read and in what is reported moves by the number of those bytes, and nothing else changes; the other
bytes are never looked at.
-/

namespace ImageMetadata

variable {α β γ δ : Type}

/-- The same problem where the bytes that it is about stand further back. -/
def Problem.moved (n : Nat) : Problem → Problem
  | seekOutside position size => seekOutside (position + n) (size + n)
  | readOutside count position size => readOutside count (position + n) (size + n)
  | tiffHeaderOutside base => tiffHeaderOutside (base + n)
  | unreadableDirectory id offset cause => unreadableDirectory id offset (cause.moved n)
  | p => p

theorem Problem.isStructural_moved (n : Nat) (p : Problem) :
    (p.moved n).isStructural = p.isStructural := by
  cases p <;> rfl

/-- The same event where the bytes that it is about stand further back. -/
def Event.moved (n : Nat) : Event → Event
  | notice (.integrity p) => notice (.integrity (p.moved n))
  | trace (.directoryRead id position entries) => trace (.directoryRead id (position + n) entries)
  | event => event

theorem Event.integrity?_moved (n : Nat) (event : Event) :
    (event.moved n).integrity? = event.integrity?.map (Problem.moved n) := by
  rcases event with (_ | _) | (_ | _) <;> rfl

theorem Event.remark?_moved (n : Nat) (event : Event) :
    (event.moved n).remark? = event.remark? := by
  rcases event with (_ | _) | (_ | _) <;> rfl

namespace Outcome

/-- The outcome where the bytes stand further back, with what becomes of its result. -/
def moved (n : Nat) (move : α → β) (x : Outcome α) : Outcome β where
  events := x.events.map (Event.moved n)
  result :=
    match x.result with
    | .ok a => .ok (move a)
    | .error p => .error (p.moved n)

theorem integrity_moved (n : Nat) (move : α → β) (x : Outcome α) :
    (x.moved n move).integrity = x.integrity.map (Problem.moved n) := by
  rw [integrity, integrity, moved, List.filterMap_map, List.map_filterMap]
  exact congrArg (List.filterMap · x.events) (funext (Event.integrity?_moved n))

theorem remarks_moved (n : Nat) (move : α → β) (x : Outcome α) :
    (x.moved n move).remarks = x.remarks := by
  rw [remarks, remarks, moved, List.filterMap_map]
  exact congrArg (List.filterMap · x.events) (funext (Event.remark?_moved n))

/-- The second outcome is the first one with its positions moved. -/
def Moves (n : Nat) (move : α → β) (x : Outcome α) (y : Outcome β) : Prop := x.moved n move = y

namespace Moves

variable {n : Nat} {move : α → β} {move' : γ → δ} {x : Outcome α} {y : Outcome β}

protected theorem pure (a : α) : Moves n move (pure a) (pure (move a)) := rfl

theorem pure_of_eq {a : α} {b : β} (h : move a = b) : Moves n move (pure a) (pure b) :=
  h ▸ .pure a

protected theorem fail (p : Problem) : Moves n move (Outcome.fail p) (Outcome.fail (p.moved n)) :=
  rfl

protected theorem flag (strict : Bool) (p : Problem) :
    Moves n id (flag strict p) (flag strict (p.moved n)) := by
  cases strict <;> rfl

protected theorem require (c : Bool) (p : Problem) :
    Moves n id (require c p) (require c (p.moved n)) := by
  cases c <;> rfl

protected theorem check (strict c : Bool) (p : Problem) :
    Moves n id (check strict c p) (check strict c (p.moved n)) := by
  cases c with
  | false => exact .flag strict p
  | true => exact .pure ()

/-- What follows only has to move for the result that the first part comes to. -/
theorem bind_of_ok {f : α → Outcome γ} {g : β → Outcome δ} (h : Moves n move x y)
    (k : ∀ a, x.result = .ok a → Moves n move' (f a) (g (move a))) :
    Moves n move' (x >>= f) (y >>= g) := by
  subst h
  obtain ⟨events, p | a⟩ := x
  · rfl
  · rw [Moves, Outcome.bind_of_ok f rfl, Outcome.bind_of_ok (a := move a) g rfl, ← k a rfl]
    simp [moved]

protected theorem bind {f : α → Outcome γ} {g : β → Outcome δ} (h : Moves n move x y)
    (k : ∀ a, Moves n move' (f a) (g (move a))) : Moves n move' (x >>= f) (y >>= g) :=
  h.bind_of_ok fun a _ => k a

protected theorem map {f : α → γ} {g : β → δ} (h : Moves n move x y)
    (k : ∀ a, move' (f a) = g (move a)) : Moves n move' (f <$> x) (g <$> y) := by
  rw [map_eq_pure_bind, map_eq_pure_bind]
  refine h.bind fun a => ?_
  rw [← k a]
  exact .pure (f a)

/-- What is done for each element of a list, and for what becomes of it. -/
protected theorem mapM {ι : Type} {f : ι → Outcome α} {g : ι → Outcome β} {image : ι → ι}
    (h : ∀ i, Moves n move (f i) (g (image i))) (list : List ι) :
    Moves n (List.map move) (list.mapM f) ((list.map image).mapM g) := by
  induction list with
  | nil => exact .pure []
  | cons i rest ih =>
      rw [List.map_cons, List.mapM_cons, List.mapM_cons]
      exact (h i).bind fun a => ih.bind fun as => .pure (a :: as)

/-- A handler takes over the same failures. -/
protected theorem rescue {f : Problem → Outcome α} {g : Problem → Outcome β}
    (h : Moves n move x y) (k : ∀ p, Moves n move (f p) (g (p.moved n))) :
    Moves n move (x.rescue f) (y.rescue g) := by
  subst h
  obtain ⟨events, p | a⟩ := x
  · have handled := k p
    unfold Moves at handled
    simp only [Moves, rescue, moved, p.isStructural_moved n, ← handled]
    split
    · simp
    · rfl
  · rfl

end Moves

end Outcome

theorem Bytes.slice_append_add (before bytes : Bytes) (offset size : Nat) :
    (before ++ bytes).slice (offset + before.length) size = bytes.slice offset size := by
  rw [slice, slice, Nat.add_comm, List.drop_length_add_append]

namespace Tiff

open Outcome (Moves)

/-- The same header further back. -/
def Header.moved (n : Nat) (h : Header) : Header := { h with base := h.base + n }

@[simp] theorem Header.moved_order (n : Nat) (h : Header) : (h.moved n).order = h.order := rfl

@[simp] theorem Header.moved_base (n : Nat) (h : Header) : (h.moved n).base = h.base + n := rfl

@[simp] theorem Header.moved_countSize (n : Nat) (h : Header) :
    (h.moved n).countSize = h.countSize := rfl

@[simp] theorem Header.moved_slotSize (n : Nat) (h : Header) :
    (h.moved n).slotSize = h.slotSize := rfl

@[simp] theorem Header.moved_offsetSize (n : Nat) (h : Header) :
    (h.moved n).offsetSize = h.offsetSize := rfl

@[simp] theorem Header.moved_allows (n : Nat) (h : Header) : (h.moved n).allows = h.allows := rfl

/-- The same entry with its value further back. -/
def Entry.moved (n : Nat) (e : Entry) : Entry := { e with offset := e.offset + n }

/-- The same directory further back. -/
def Directory.moved (n : Nat) (d : Directory) : Directory :=
  { d with offset := d.offset + n, entries := d.entries.map (Entry.moved n) }

/-- The same stream further back. -/
def Stream.moved (n : Nat) (s : Stream) : Stream where
  header := s.header.moved n
  directories := s.directories.map (Directory.moved n)

/-- The same contents of a directory further back; links count from the header. -/
def Contents.moved (n : Nat) (c : Contents) : Contents :=
  { c with entries := c.entries.map (Entry.moved n) }

/-- The same walk through a stream further back. -/
def Walk.moved (n : Nat) (w : Walk) : Walk :=
  { w with
    visited := w.visited.map (· + n)
    directories := w.directories.map (Directory.moved n) }

/-- The same stream behind other bytes. -/
def Source.behind (before : Bytes) (s : Source) : Source :=
  { s with bytes := before ++ s.bytes, header := s.header.moved before.length }

variable (before bytes : Bytes) (h : Header) (strict : Bool) (id : DirectoryId)

theorem unsignedAt_behind (order : ByteOrder) (position width : Nat) :
    unsignedAt (before ++ bytes) order (position + before.length) width =
      (unsignedAt bytes order position width).mapError (Problem.moved before.length) := by
  unfold unsignedAt
  rw [Bytes.slice_append_add, List.length_append]
  by_cases inside : position + width ≤ bytes.length
  · rw [if_pos inside, if_pos (by omega)]
    rfl
  · rw [if_neg inside, if_neg (by omega), Nat.add_comm before.length]
    rfl

theorem moves_unsignedAt (order : ByteOrder) (position width : Nat) :
    Moves before.length (fun n => n) (Outcome.ofExcept (unsignedAt bytes order position width))
      (Outcome.ofExcept
        (unsignedAt (before ++ bytes) order (position + before.length) width)) := by
  rw [unsignedAt_behind]
  cases unsignedAt bytes order position width <;> rfl

theorem Header.moves_read (base : Nat) :
    Moves before.length (Header.moved before.length) (Header.read bytes base strict)
      (Header.read (before ++ bytes) (base + before.length : Nat) strict) := by
  have room : ((0 : Int) ≤ (base + before.length : Nat) &&
      ((base + before.length : Nat) : Int) + 2 ≤ (before ++ bytes).length) =
        ((0 : Int) ≤ base && (base : Int) + 2 ≤ bytes.length) := by
    rw [List.length_append]
    congr 1
    rw [decide_eq_decide]
    omega
  have place (offset : Nat) : base + before.length + offset = base + offset + before.length := by
    omega
  unfold Header.read
  rw [room]
  refine (Moves.require _ _).bind fun _ => ?_
  simp only [Int.toNat_natCast, Bytes.slice_append_add, place]
  cases orderOfMark? (bytes.slice base 2) with
  | none => exact .fail _
  | some order =>
      refine (moves_unsignedAt before bytes order _ _).bind fun version => ?_
      split
      · refine (moves_unsignedAt before bytes order _ _).bind fun offsetSize => ?_
        refine (moves_unsignedAt before bytes order _ _).bind fun reserved => ?_
        refine (Moves.require _ _).bind fun _ => ?_
        exact (moves_unsignedAt before bytes order _ _).bind fun first => .pure _
      · refine (Moves.check _ _ _).bind fun _ => ?_
        exact (moves_unsignedAt before bytes order _ _).bind fun first => .pure _

/-- A value that is located stands as far behind as its slot. -/
theorem locate_behind (slot size : Nat) :
    locate (before ++ bytes) (h.moved before.length) (slot + before.length) size =
      (locate bytes h slot size).map fun found => (found.1 + before.length, found.2) := by
  have place : slot + before.length + (h.slotSize - h.offsetSize) =
      slot + (h.slotSize - h.offsetSize) + before.length := by omega
  have target (offset : Nat) :
      h.base + before.length + offset = h.base + offset + before.length := by omega
  have room (offset : Nat) : h.base + offset + before.length + size ≤ (before ++ bytes).length ↔
      h.base + offset + size ≤ bytes.length := by
    rw [List.length_append]
    omega
  unfold locate
  simp only [Header.moved_slotSize, Header.moved_offsetSize, Header.moved_order, Header.moved_base,
    place, target, room, Bytes.slice_append_add]
  split
  · rfl
  · split <;> rfl

theorem moves_readSlot (slot : Nat) :
    Moves before.length (Option.map (Entry.moved before.length)) (readSlot bytes h strict id slot)
      (readSlot (before ++ bytes) (h.moved before.length) strict id (slot + before.length)) := by
  have place (offset : Nat) : slot + before.length + offset = slot + offset + before.length := by
    omega
  unfold readSlot
  rw [Bytes.slice_append_add]
  refine (Moves.require _ _).bind fun _ => ?_
  simp only [Header.moved_order, Header.moved_allows, Header.moved_offsetSize, place,
    Bytes.slice_append_add, locate_behind]
  cases id.family.name? (h.order.unsigned (bytes.slice slot 2)) with
  | none =>
      refine (Moves.flag _ _).bind fun _ => ?_
      exact .pure none
  | some name =>
      dsimp only
      split
      · refine (Moves.flag _ _).bind fun _ => ?_
        exact .pure none
      cases FieldType.ofCode? (h.order.unsigned (bytes.slice (slot + 2) 2)) with
      | none => exact .fail _
      | some type =>
          dsimp only
          cases locate bytes h slot
              (type.size * h.order.unsigned (bytes.slice (slot + 4) h.offsetSize)) with
          | error offset =>
              refine (Moves.flag _ _).bind fun _ => ?_
              exact .pure none
          | ok found =>
              obtain ⟨offset, raw⟩ := found
              dsimp only [Except.map]
              split
              · exact .pure _
              · exact .fail _

theorem Entry.moves_targets (n : Nat) (e : Entry) :
    Moves n (fun links => links) (e.targets strict) ((e.moved n).targets strict) := by
  unfold Entry.targets Entry.moved
  dsimp only
  split
  · exact .pure _
  split
  · split <;> exact .pure _
  · refine (Moves.flag _ _).bind fun _ => ?_
    exact .pure _

theorem moves_readEntry (slot : Nat) :
    Moves before.length (Option.map (Prod.map (Entry.moved before.length) fun links => links))
      (readEntry bytes h strict id slot)
      (readEntry (before ++ bytes) (h.moved before.length) strict id (slot + before.length)) := by
  refine (moves_readSlot before bytes h strict id slot).bind fun e? => ?_
  cases e? with
  | none => exact .pure none
  | some e => exact (e.moves_targets strict before.length).bind fun links => .pure (some (e, links))

theorem moves_readNext (position : Nat) :
    Moves before.length (fun next => next) (readNext bytes h id position)
      (readNext (before ++ bytes) (h.moved before.length) id (position + before.length)) := by
  unfold readNext
  rw [Header.moved_order, Header.moved_offsetSize, unsignedAt_behind]
  cases unsignedAt bytes h.order position h.offsetSize <;> rfl

theorem slots_moved (n start count : Nat) :
    slots (h.moved n) (start + n) count = (slots h start count).map (· + n) := by
  unfold slots
  rw [List.map_map]
  refine List.map_congr_left fun i _ => ?_
  simp only [Header.moved_slotSize, Function.comp_apply]
  omega

theorem moves_readContents (position : Nat) :
    Moves before.length (Contents.moved before.length) (readContents bytes h strict id position)
      (readContents (before ++ bytes) (h.moved before.length) strict id
        (position + before.length)) := by
  have total : (before ++ bytes).length = bytes.length + before.length := by
    rw [List.length_append, Nat.add_comm]
  have place (l r : Nat) : l + before.length + r = l + r + before.length := Nat.add_right_comm ..
  unfold readContents
  simp only [total, place, Nat.add_le_add_iff_right, Header.moved_order, Header.moved_countSize,
    Header.moved_slotSize, slots_moved]
  refine (Moves.require _ _).bind fun _ => ?_
  refine (moves_unsignedAt before bytes _ _ _).bind fun count => ?_
  refine (Moves.require _ _).bind fun _ => ?_
  refine (Moves.mapM (moves_readEntry before bytes h strict id) _).bind fun found => ?_
  refine (moves_readNext before bytes h id _).bind fun next => ?_
  have kept : (found.map (Option.map (Prod.map (Entry.moved before.length)
      fun links => links))).filterMap (fun slot => slot) =
        (found.filterMap fun slot => slot).map
          (Prod.map (Entry.moved before.length) fun links => links) := by
    rw [List.filterMap_map, List.map_filterMap]
    rfl
  rw [kept]
  refine .pure_of_eq ?_
  simp [Contents.moved, List.flatMap_map, Function.comp_def]

theorem Walk.takes_moved (n : Nat) (w : Walk) (id : DirectoryId) :
    (w.moved n).takes id = w.takes id := by
  simp [takes, moved, Function.comp_def, Directory.moved]

theorem Walk.contains_visited_moved (n position : Nat) (w : Walk) :
    (w.moved n).visited.contains (position + n) = w.visited.contains position := by
  simp [moved]

namespace Source

variable (s : Source) (w : Walk) (t : Task)

@[simp] theorem behind_header : (s.behind before).header = s.header.moved before.length := rfl

theorem position_behind : (s.behind before).position t = s.position t + before.length :=
  Nat.add_right_comm ..

theorem place_moved (n : Nat) : place (w.moved n) t = ((place w t).1, (place w t).2.moved n) := by
  unfold place
  split <;> rfl

/-- A link is accepted, or refused, as it is without the other bytes. -/
theorem accept_behind :
    (s.behind before).accept (w.moved before.length) t =
      ((s.accept w t).1, (s.accept w t).2.moved before.length) := by
  unfold accept
  rw [position_behind, Walk.contains_visited_moved, place_moved]
  change (if _ then _ else if s.limit < _ then _ else _) = _
  split
  · rfl
  split
  · rfl
  rcases place w t with ⟨_ | id, v⟩
  · rfl
  · dsimp only
    rw [Walk.takes_moved]
    split <;> rfl

variable {s w t} in
/-- What is wrong with a link is told by its offset, which counts from the header. -/
theorem moved_of_accept {n : Nat} {p : Problem} {v : Walk}
    (refused : s.accept w t = (.error p, v)) : p.moved n = p := by
  unfold accept at refused
  split at refused
  · cases refused; rfl
  split at refused
  · cases refused; rfl
  split at refused
  · cases refused; rfl
  split at refused
  · cases refused; rfl
  · cases refused

theorem moves_follow (n offset : Nat) :
    Moves n (fun tasks => tasks) (s.follow t id offset) ((s.behind before).follow t id offset) := by
  unfold follow
  split
  · exact .pure _
  split
  · cases id.next with
    | none =>
        refine (Moves.flag _ _).bind fun _ => ?_
        exact .pure _
    | some next => exact .pure _
  split
  · exact .pure _
  · rfl

theorem moves_open? :
    Moves before.length (Option.map (Contents.moved before.length)) (s.open? w t id)
      ((s.behind before).open? (w.moved before.length) t id) := by
  have found : Moves before.length (Option.map (Contents.moved before.length))
      (some <$> readContents s.bytes s.header s.strict id (s.position t))
      (some <$> readContents (before ++ s.bytes) (s.header.moved before.length) s.strict id
        (s.position t + before.length)) :=
    (moves_readContents before s.bytes s.header s.strict id _).map fun _ => rfl
  have first : (w.moved before.length).directories.isEmpty = w.directories.isEmpty := by
    simp [Walk.moved]
  unfold open?
  rw [first, position_behind]
  split
  · exact found
  · refine found.rescue fun cause => ?_
    refine (Moves.flag _ (.unreadableDirectory id t.link.offset cause)).bind fun _ => ?_
    exact .pure none

theorem moves_visit :
    Moves before.length (Prod.map (Walk.moved before.length) fun tasks => tasks) (s.visit w t)
      ((s.behind before).visit (w.moved before.length) t) := by
  unfold visit
  rw [accept_behind]
  rcases accepted : s.accept w t with ⟨p | id, v⟩
  · have same := moved_of_accept (n := before.length) accepted
    have flagged := Moves.flag (n := before.length) s.strict p
    rw [same] at flagged
    refine flagged.bind fun _ => ?_
    exact .pure _
  · refine (moves_open? before id s v t).bind fun contents? => ?_
    cases contents? with
    | none => exact .pure _
    | some contents =>
        have read : Moves before.length (fun u => u)
            (Outcome.trace (.directoryRead id (s.position t) contents.entries.length))
            (Outcome.trace (.directoryRead id ((s.behind before).position t)
              (contents.moved before.length).entries.length)) := by
          rw [position_behind, Contents.moved, List.length_map]
          rfl
        refine read.bind fun _ => ?_
        refine (moves_follow before id s t _ contents.next).bind fun last => ?_
        refine .pure_of_eq ?_
        simp [Walk.moved, Walk.push, Directory.moved, Contents.moved, position_behind]

/-- Each task is done as it is without the other bytes, and so are all tasks. -/
theorem moves_walk (stack : List Task) :
    Moves before.length (Walk.moved before.length) (s.walk w stack)
      ((s.behind before).walk (w.moved before.length) stack) := by
  induction w, stack using walk.induct s with
  | case1 w =>
      rw [walk_nil, walk_nil]
      exact .pure w
  | case2 w t stack events p failed =>
      rw [walk_cons, walk_cons]
      refine (moves_visit before s w t).bind_of_ok fun r visited => ?_
      rw [failed] at visited
      cases visited
  | case3 w t stack events v tasks visited ih =>
      rw [walk_cons, walk_cons]
      refine (moves_visit before s w t).bind_of_ok fun r result => ?_
      rw [visited] at result
      cases result
      exact ih

end Source

namespace Stream

theorem moves_read (base : Nat) (limit : Int) :
    Moves before.length (moved before.length) (read bytes base strict limit)
      (read (before ++ bytes) (base + before.length : Nat) strict limit) := by
  have total : (before ++ bytes).length = bytes.length + before.length := by
    rw [List.length_append, Nat.add_comm]
  refine (Header.moves_read before bytes strict base).bind fun header => ?_
  have first : (header.moved before.length).base + (header.moved before.length).firstOffset +
      (header.moved before.length).countSize =
        header.base + header.firstOffset + header.countSize + before.length := by
    change header.base + before.length + header.firstOffset + header.countSize = _
    omega
  have rest : bytes.length + before.length - (header.moved before.length).base =
      bytes.length - header.base := Nat.add_sub_add_right ..
  simp only [first, total, rest, Nat.add_le_add_iff_right]
  refine (Moves.require _ _).bind fun _ => ?_
  refine (Source.moves_walk before ⟨bytes, header, strict, limit⟩ Walk.start _).bind fun w => ?_
  exact .pure _

/-- What is read of a stream that stands further back: the same header with its own position, and
the same directories in the same order, with their positions and those of their values; or the same
failure. There are the same warnings, with the positions that they name. -/
structure IsMoved (n : Nat) (near far : Outcome Stream) : Prop where
  ok_iff (stream : Stream) :
    far.result = .ok stream ↔ ∃ t : Stream, near.result = .ok t ∧ t.moved n = stream
  error_iff (p : Problem) :
    far.result = .error p ↔ ∃ q : Problem, near.result = .error q ∧ q.moved n = p
  integrity_eq : far.integrity = near.integrity.map (Problem.moved n)
  remarks_eq : far.remarks = near.remarks

theorem IsMoved.of_moves {n : Nat} {near far : Outcome Stream} (h : Moves n (moved n) near far) :
    IsMoved n near far := by
  subst h
  obtain ⟨events, p | t⟩ := near
  all_goals exact {
    ok_iff := fun _ => by simp [Outcome.moved]
    error_iff := fun _ => by simp [Outcome.moved]
    integrity_eq := Outcome.integrity_moved n (moved n) _
    remarks_eq := Outcome.remarks_moved n (moved n) _ }

/-- A stream is read alike wherever its header stands: behind other bytes, whatever they are, only
the positions are larger, by the number of those bytes. So any other bytes may stand there. -/
theorem isMoved_read (before bytes : Bytes) (base : Nat) (strict : Bool) (limit : Int) :
    IsMoved before.length (read bytes base strict limit)
        (read (before ++ bytes) (before.length + base : Nat) strict limit) ∧
      ∀ filler : UInt8, read (before ++ bytes) (before.length + base : Nat) strict limit =
        read (List.replicate before.length filler ++ bytes) (before.length + base : Nat) strict
          limit := by
  rw [Nat.add_comm]
  refine ⟨.of_moves (moves_read before bytes strict base limit), fun filler => ?_⟩
  have zeros := moves_read (List.replicate before.length filler) bytes strict base limit
  rw [List.length_replicate] at zeros
  exact (moves_read before bytes strict base limit).symm.trans zeros

end Stream

end Tiff

end ImageMetadata
