import ImageMetadata.Cursor
import ImageMetadata.Proofs.Holds

/-!
# Readings that take a part

A reading takes a part of the bytes if it moves over the part and comes to the same result wherever
the part stands. A sequence takes the parts of its steps one after the other. A reading is local if
it never comes to a result in any other way, and it finds what is written if what it moves over is
always what its result is written as.
-/

namespace ImageMetadata.Reading

variable {α β : Type}

/-- Wherever the part stands, the reading moves over it and comes to the result. -/
def Takes (x : Reading α) (part : Bytes) (a : α) : Prop :=
  ∀ c : Cursor, c.order = .big → c.bytes.Holds part c.position →
    x.run c = .ok a { c with position := c.position + part.length }

/-- What is decoded from a payload is read from its start. -/
theorem run_of_decode {x : Reading α} {payload : Bytes} {a : α} {c : Cursor}
    (h : x.decode payload = .ok (a, c)) : x.run (Cursor.ofBytes payload .big) = .ok a c := by
  unfold Reading.decode at h
  split at h
  · cases h
    assumption
  · cases h

theorem decode_of_run {x : Reading α} {payload : Bytes} {a : α} {c : Cursor}
    (h : x.run (Cursor.ofBytes payload .big) = .ok a c) : x.decode payload = .ok (a, c) := by
  unfold Reading.decode
  rw [h]

namespace Takes

variable {x : Reading α} {f : α → Reading β} {a : α} {b : β} {l r part : Bytes}

protected theorem pure (a : α) : Takes (pure a) [] a := fun _ _ _ => rfl

/-- What follows goes on behind the part that is taken. -/
theorem run_bind_eq {c : Cursor} (h : Takes x part a) (order : c.order = .big)
    (held : c.bytes.Holds part c.position) :
    (x >>= f).run c = (f a).run { c with position := c.position + part.length } :=
  Cursor.run_bind_of_ok f (h c order held)

theorem run_bind {c : Cursor} (h : Takes x l a) (order : c.order = .big)
    (held : c.bytes.Holds (l ++ r) c.position)
    (k : (f a).run { c with position := c.position + l.length } =
      .ok b { c with position := c.position + l.length + r.length }) :
    (x >>= f).run c = .ok b { c with position := c.position + (l ++ r).length } := by
  rw [h.run_bind_eq order held.left, k, List.length_append, ← Nat.add_assoc]

protected theorem bind (h : Takes x l a) (k : Takes (f a) r b) : Takes (x >>= f) (l ++ r) b :=
  fun _ order held => h.run_bind order held (k _ order held.right)

/-- A reading whose result is only changed takes the same part. -/
protected theorem bind_pure (h : Takes x part a) (f : α → β) :
    Takes (do return f (← x)) part (f a) := by
  have taken := h.bind (f := fun a => pure (f a)) (.pure (f a))
  rwa [List.append_nil] at taken

protected theorem read {count : Nat} (size : part.length = count) :
    Takes (Cursor.read count) part part := by
  subst size
  intro c _ held
  rw [Cursor.run_read held.add_length_le, held.slice_eq]

/-- An integer is taken from the bytes that store it. -/
protected theorem unsigned {width n : Nat} (room : n < Bytes.capacity width) :
    Takes (Cursor.unsigned width) (ByteOrder.big.unsignedBytes width n) n := by
  intro c order held
  have inside := held.add_length_le
  rw [ByteOrder.unsignedBytes_length] at inside ⊢
  rw [Cursor.run_unsigned inside, order, held.unsigned_eq room]

protected theorem map (f : α → β) (h : Takes x part a) : Takes (f <$> x) part (f a) := by
  rw [map_eq_pure_bind]
  exact h.bind_pure f

protected theorem discard (h : Takes x part a) : Takes (discard x) part () :=
  h.map fun _ => ()

/-- A requirement that is met takes nothing. -/
theorem require_bind {f : Unit → Reading β} {c : Bool} {p : Problem} (h : c = true)
    (k : Takes (f ()) part b) : Takes (Cursor.require c p >>= f) part b := by
  subst h
  exact k

/-- An empty field stores nothing but 0. -/
protected theorem field {width n : Nat} (known : width = 0 ∨ width = 4 ∨ width = 8)
    (room : n < Bytes.capacity width) :
    Takes (Cursor.field width) (ByteOrder.big.unsignedBytes width n) n := by
  rcases known with rfl | rfl | rfl
  · obtain rfl : n = 0 := Nat.lt_one_iff.1 room
    exact .pure 0
  · exact show Takes (Cursor.unsigned 4) _ n from .unsigned room
  · exact show Takes (Cursor.unsigned 8) _ n from .unsigned room

section

variable {γ : Type} {code : γ → Bytes} {value : γ → α} {list : List γ}

protected theorem collect {found : List α} (h : ∀ c ∈ list, Takes x (code c) (value c)) :
    Takes (Cursor.collect x list.length found) (list.flatMap code)
      ((list.map value).reverse ++ found) := by
  induction list generalizing found with
  | nil => exact .pure found
  | cons c rest ih =>
      rw [List.flatMap_cons, List.map_cons, List.reverse_cons, List.append_assoc]
      exact (h c List.mem_cons_self).bind (ih fun d member => h d (List.mem_cons_of_mem c member))

/-- The values of a list are taken one by one from what the elements are written as. -/
theorem times_map (h : ∀ c ∈ list, Takes x (code c) (value c)) :
    Takes (Cursor.times list.length x) (list.flatMap code) (list.map value) := by
  have collected : Takes (Cursor.collect x list.length []) (list.flatMap code)
      ((list.map value).reverse ++ []) := .collect h
  have taken := collected.bind_pure List.reverse
  rwa [List.append_nil, List.reverse_reverse] at taken

end

/-- A list is taken element by element. -/
protected theorem times {code : α → Bytes} {list : List α}
    (h : ∀ a ∈ list, Takes x (code a) a) :
    Takes (Cursor.times list.length x) (list.flatMap code) list := by
  have taken : Takes (Cursor.times list.length x) (list.flatMap code) (list.map fun a => a) :=
    .times_map h
  rwa [List.map_id'] at taken

/-- A payload is decoded by the part at its start. -/
theorem decode_eq {payload : Bytes} (h : Takes x part a) (held : payload.Holds part 0) :
    x.decode payload = .ok (a, { Cursor.ofBytes payload .big with position := part.length }) := by
  rw [decode_of_run (h (Cursor.ofBytes payload .big) rfl held)]
  simp only [Cursor.ofBytes, Nat.zero_add]

end Takes

/-- Where the part stands at the end of the bytes, the reading moves over it and comes to the
result. Such a reading may look at the number of bytes that are left. -/
def TakesRest (x : Reading α) (part : Bytes) (a : α) : Prop :=
  ∀ c : Cursor, c.order = .big → c.bytes.Holds part c.position →
    c.position + part.length = c.size →
    x.run c = .ok a { c with position := c.position + part.length }

namespace TakesRest

variable {x : Reading α} {f : α → Reading β} {a : α} {b : β} {l r part : Bytes}

theorem of_takes (h : Takes x part a) : TakesRest x part a := fun c order held _ => h c order held

protected theorem bind (h : Takes x l a) (k : TakesRest (f a) r b) :
    TakesRest (x >>= f) (l ++ r) b := by
  intro c order held last
  rw [List.length_append, ← Nat.add_assoc] at last
  exact h.run_bind order held (k _ order held.right last)

/-- Nothing is read after the last part. -/
theorem bind_pure (h : TakesRest x part a) (last : f a = pure b) : TakesRest (x >>= f) part b := by
  intro c order held whole
  rw [Cursor.run_bind_of_ok f (h c order held whole), last]
  rfl

theorem remaining_bind {f : Nat → Reading β} (h : TakesRest (f part.length) part b) :
    TakesRest (do f (← get).remaining) part b := by
  intro c order held last
  have left : c.remaining = part.length := by
    unfold Cursor.remaining
    omega
  rw [Cursor.run_bind_of_ok _ (EStateM.run_get c), left]
  exact h c order held last

/-- The part is decoded as a payload of its own. -/
theorem decode_eq (h : TakesRest x part a) :
    x.decode part = .ok (a, { Cursor.ofBytes part .big with position := part.length }) := by
  rw [decode_of_run (h (Cursor.ofBytes part .big) rfl (.refl part) (Nat.zero_add _))]
  simp only [Cursor.ofBytes, Nat.zero_add]

end TakesRest

/-- Where the reading comes to a result, the result fits into its bytes, and the reading moves over
them. -/
def Finds (x : Reading α) (code : α → Bytes) (fits : α → Prop) : Prop :=
  ∀ (c d : Cursor) (a : α), c.order = .big → c.position ≤ c.size → x.run c = .ok a d →
    fits a ∧ c.bytes.Holds (code a) c.position ∧
      d = { c with position := c.position + (code a).length }

namespace Finds

variable {x : Reading α} {code : α → Bytes} {fits : α → Prop}

/-- What follows starts behind what is found. -/
theorem of_run_bind {f : α → Reading β} {c d : Cursor} {b : β} (h : Finds x code fits)
    (run : (x >>= f).run c = .ok b d) (order : c.order = .big) (inside : c.position ≤ c.size) :
    ∃ a, fits a ∧ c.bytes.Holds (code a) c.position ∧
      (f a).run { c with position := c.position + (code a).length } = .ok b d := by
  obtain ⟨a, c', first, rest⟩ := Cursor.ok_of_run_bind run
  obtain ⟨fit, held, rfl⟩ := h c c' a order inside first
  exact ⟨a, fit, held, rest⟩

protected theorem read (count : Nat) :
    Finds (Cursor.read count) id fun bytes => bytes.length = count := by
  intro c d bytes _ _ run
  obtain ⟨inside, rfl⟩ := Cursor.of_run_read run
  rw [Cursor.run_read inside] at run
  cases run
  have length := Bytes.slice_length_of_le inside
  exact ⟨length, .of_slice inside, by rw [id, length]⟩

protected theorem unsigned (width : Nat) :
    Finds (Cursor.unsigned width) (ByteOrder.big.unsignedBytes width)
      fun n => n < Bytes.capacity width := by
  intro c d n order _ run
  obtain ⟨inside, rfl⟩ := Cursor.of_run_unsigned run
  rw [Cursor.run_unsigned inside, order] at run
  cases run
  have length := Bytes.slice_length_of_le inside
  have room := ByteOrder.big.unsigned_lt (c.bytes.slice c.position width)
  have stored := ByteOrder.big.unsignedBytes_unsigned (c.bytes.slice c.position width)
  rw [length] at room stored
  exact ⟨room, by rw [stored]; exact .of_slice inside, by rw [stored, length]⟩

protected theorem collect (h : Finds x code fits) {n : Nat} {found list : List α} {c d : Cursor}
    (order : c.order = .big) (inside : c.position ≤ c.size)
    (run : (Cursor.collect x n found).run c = .ok list d) :
    ∃ new : List α, list = new.reverse ++ found ∧ new.length = n ∧ (∀ a ∈ new, fits a) ∧
      c.bytes.Holds (new.flatMap code) c.position ∧
      d = { c with position := c.position + (new.flatMap code).length } := by
  induction n generalizing found c with
  | zero =>
      have nothing : c.bytes.Holds (c.bytes.slice c.position 0) c.position := .of_slice inside
      cases run
      exact ⟨[], rfl, rfl, List.forall_mem_nil _, nothing, rfl⟩
  | succ n ih =>
      obtain ⟨a, fit, held, rest⟩ := h.of_run_bind run order inside
      obtain ⟨new, rfl, rfl, fits, held', rfl⟩ :=
        ih (c := { c with position := c.position + (code a).length }) order held.add_length_le rest
      refine ⟨a :: new, by simp, rfl, List.forall_mem_cons.2 ⟨fit, fits⟩, ?_, ?_⟩
      · rw [List.flatMap_cons]
        exact held.append held'
      · rw [List.flatMap_cons, List.length_append, ← Nat.add_assoc]

/-- A list is found element by element. -/
protected theorem times (n : Nat) (h : Finds x code fits) :
    Finds (Cursor.times n x) (List.flatMap code)
      fun list => list.length = n ∧ ∀ a ∈ list, fits a := by
  intro c d list order inside run
  obtain ⟨reversed, c', collected, ended⟩ := Cursor.ok_of_run_bind run
  cases ended
  obtain ⟨new, rfl, length, fits, held, rfl⟩ := h.collect order inside collected
  rw [List.append_nil, List.reverse_reverse]
  exact ⟨⟨length, fits⟩, held, rfl⟩

end Finds

/-- Where the reading comes to a result, it takes the bytes that it moves over. -/
def IsLocal (x : Reading α) : Prop :=
  ∀ (c d : Cursor) (a : α), c.order = .big → c.position ≤ c.size → x.run c = .ok a d →
    ∃ part, Takes x part a ∧ c.bytes.Holds part c.position ∧
      d = { c with position := c.position + part.length }

namespace IsLocal

variable {x : Reading α} {f : α → Reading β}

protected theorem pure (a : α) : IsLocal (pure a) := by
  intro c d a' _ inside run
  cases run
  have nothing : c.bytes.Holds (c.bytes.slice c.position 0) c.position := .of_slice inside
  exact ⟨[], .pure a, nothing, rfl⟩

protected theorem bind (h : IsLocal x) (k : ∀ a, IsLocal (f a)) : IsLocal (x >>= f) := by
  intro c d b order inside run
  obtain ⟨a, c', first, second⟩ := Cursor.ok_of_run_bind run
  obtain ⟨l, taken, left, rfl⟩ := h c c' a order inside first
  obtain ⟨r, taken', right, rfl⟩ := k a { c with position := c.position + l.length } d b order
    left.add_length_le second
  refine ⟨l ++ r, taken.bind taken', left.append right, ?_⟩
  rw [List.length_append, ← Nat.add_assoc]

/-- What is found and taken is all that a reading looks at. -/
theorem of_finds {code : α → Bytes} {fits : α → Prop} (h : Finds x code fits)
    (taken : ∀ a, fits a → Takes x (code a) a) : IsLocal x := by
  intro c d a order inside run
  obtain ⟨fit, held, state⟩ := h c d a order inside run
  exact ⟨code a, taken a fit, held, state⟩

protected theorem read (count : Nat) : IsLocal (Cursor.read count) :=
  .of_finds (.read count) fun _ => .read

protected theorem unsigned (width : Nat) : IsLocal (Cursor.unsigned width) :=
  .of_finds (.unsigned width) fun _ => .unsigned

protected theorem throw (p : Problem) : IsLocal (throw p : Reading α) :=
  fun _ _ _ _ _ run => nomatch run

protected theorem map (f : α → β) (h : IsLocal x) : IsLocal (f <$> x) := by
  rw [map_eq_pure_bind]
  exact h.bind fun a => .pure (f a)

protected theorem discard (h : IsLocal x) : IsLocal (discard x) := h.map fun _ => ()

protected theorem require (c : Bool) (p : Problem) : IsLocal (Cursor.require c p) := by
  cases c with
  | false => exact .throw p
  | true => exact .pure ()

protected theorem field (width : Int) : IsLocal (Cursor.field width) := by
  unfold Cursor.field
  split
  · exact .pure 0
  split
  · exact .unsigned _
  · exact .throw _

protected theorem collect (h : IsLocal x) (n : Nat) (found : List α) :
    IsLocal (Cursor.collect x n found) := by
  induction n generalizing found with
  | zero => exact .pure found
  | succ n ih => exact h.bind fun a => ih (a :: found)

protected theorem times (n : Nat) (h : IsLocal x) : IsLocal (Cursor.times n x) :=
  (h.collect n []).bind fun _ => .pure _

/-- A payload that ends within the part that a local reading takes is refused. -/
theorem exists_error {part payload : Bytes} {a : α} (h : IsLocal x) (taken : Takes x part a)
    (begins : payload <+: part) (short : payload ≠ part) : ∃ p, x.decode payload = .error p := by
  cases decoded : x.decode payload with
  | error p => exact ⟨p, rfl⟩
  | ok r =>
      obtain ⟨part', taken', held, _⟩ := h _ r.2 r.1 rfl (Nat.zero_le _) (run_of_decode decoded)
      have held : payload.Holds part' 0 := held
      obtain ⟨rest, rfl⟩ := begins
      have whole := Bytes.Holds.refl (payload ++ rest)
      have same := (taken.decode_eq whole).symm.trans (taken'.decode_eq (held.extend rest))
      have size : (payload ++ rest).length = part'.length :=
        congrArg (fun r => Cursor.position r.2) (Except.ok.inj same)
      have inside := held.add_length_le
      rw [List.length_append] at size
      have nothing : rest = [] := List.length_eq_zero_iff.1 (by omega)
      exact absurd (by rw [nothing, List.append_nil]) short

/-- What a local reading makes of a payload, it makes of every payload with the same start. -/
theorem decode_congr {payload payload' : Bytes} {a : α} {c : Cursor} (h : IsLocal x)
    (decoded : x.decode payload = .ok (a, c))
    (same : payload'.take c.position = payload.take c.position) :
    x.decode payload' = .ok (a, { c with bytes := payload' }) := by
  obtain ⟨part, taken, held, rfl⟩ := h _ c a rfl (Nat.zero_le _) (run_of_decode decoded)
  have start : payload.take part.length = part := held.slice_eq
  have held' : payload'.Holds part 0 := by
    have cut := List.take_append_drop part.length payload'
    simp only [Cursor.ofBytes, Nat.zero_add] at same
    rw [same, start] at cut
    exact ⟨[], _, cut.symm, rfl⟩
  rw [taken.decode_eq held']
  simp only [Cursor.ofBytes, Nat.zero_add]

end IsLocal

end ImageMetadata.Reading
