import ImageMetadata.Proofs.Safety.Heif
import ImageMetadata.Proofs.Takes

/-!
# Boxes tile their range

The boxes of a range of bytes follow each other without a gap and leave less room than a header
needs. The boxes inside a container tile the rest of its payload, down to the depth at which reading
stops; no other box has boxes inside. So the headers of all boxes are apart, and there cannot be more
boxes than headers that the bytes have room for.
-/

namespace ImageMetadata.Heif

/-- The number of bytes that a container stores before the boxes inside. -/
def Content.fixedSize : Content → Nat
  | metaBox _ => 4
  | itemInformation head _ => if head.version = 0 then 6 else 8
  | _ => 0

namespace Box

/-- The length of a box is what its size field says: a number of bytes, or that a number of 64 bits
follows the type code, or that the box lasts to the end of its range. -/
inductive IsMeasured (bytes : Bytes) (stop : Nat) (b : Box) : Prop
  | short (size : b.headerSize = 8) (length : shortLength bytes b.offset = b.length)
  | long (size : b.headerSize = 16) (mark : shortLength bytes b.offset = 1)
      (length : ByteOrder.big.unsigned (bytes.slice (b.offset + 8) 8) = b.length)
  | rest (size : b.headerSize = 8) (mark : shortLength bytes b.offset = 0)
      (length : b.offset + b.length = stop)

/-- The header of a box stands in a range of bytes, and the box does not reach past its end. -/
structure IsFramed (bytes : Bytes) (stop : Nat) (b : Box) : Prop where
  id_eq : b.id = bytes.slice (b.offset + 4) 4
  measured : b.IsMeasured bytes stop
  headerSize_le : b.headerSize ≤ b.length
  inside : b.offset + b.length ≤ stop

theorem IsMeasured.le_headerSize {bytes : Bytes} {stop : Nat} {b : Box}
    (h : b.IsMeasured bytes stop) : 8 ≤ b.headerSize := by
  cases h <;> omega

end Box

/-- Boxes tile a range of bytes: each one starts where the one before it ends, and fewer than eight
bytes are left after the last one. A container has boxes inside if its own depth is below the limit;
they tile what follows its fixed fields. -/
inductive Tiles (bytes : Bytes) (limit : Int) : Nat → Nat → Nat → List Box → Prop
  | done {depth start stop : Nat} (reached : start ≤ stop) (left : stop < start + 8) :
      Tiles bytes limit depth start stop []
  | opened {depth stop : Nat} {b : Box} {rest : List Box} (framed : b.IsFramed bytes stop)
      (container : b.content.category = .container) (shallow : (depth : Int) < limit)
      (children : Tiles bytes limit (depth + 1) (b.dataOffset + b.content.fixedSize)
        (b.offset + b.length) b.children)
      (siblings : Tiles bytes limit depth (b.offset + b.length) stop rest) :
      Tiles bytes limit depth b.offset stop (b :: rest)
  | closed {depth stop : Nat} {b : Box} {rest : List Box} (framed : b.IsFramed bytes stop)
      (kept : ¬ (b.content.category = .container ∧ (depth : Int) < limit))
      (childless : b.children = [])
      (siblings : Tiles bytes limit depth (b.offset + b.length) stop rest) :
      Tiles bytes limit depth b.offset stop (b :: rest)

variable {bytes : Bytes} {strict : Bool} {limit : Int} {depth start stop : Nat} {boxes : List Box}

namespace Tiles

/-- The boxes of every depth lie in the range that the forest tiles. -/
theorem range_of_mem (h : Tiles bytes limit depth start stop boxes) :
    ∀ b ∈ Box.preorderAll boxes,
      start ≤ b.offset ∧ b.headerSize ≤ b.length ∧ b.offset + b.length ≤ stop := by
  induction h with
  | done => simp
  | @opened depth stop b rest framed _ _ _ _ inner outer =>
      have whole := framed.inside
      have header := framed.headerSize_le
      intro b' member
      simp only [Box.preorderAll_cons, List.mem_cons, List.mem_append] at member
      rcases member with rfl | child | sibling
      · exact ⟨Nat.le_refl _, header, whole⟩
      · have within := inner b' child
        unfold Box.dataOffset at within
        omega
      · have after := outer b' sibling
        omega
  | @closed depth stop b rest framed _ childless _ outer =>
      have whole := framed.inside
      have header := framed.headerSize_le
      intro b' member
      simp only [Box.preorderAll_cons, childless, Box.preorderAll_nil, List.nil_append,
        List.mem_cons] at member
      rcases member with rfl | sibling
      · exact ⟨Nat.le_refl _, header, whole⟩
      · have after := outer b' sibling
        omega

/-- The header of a box ends before any later box starts: the first boxes inside start after it, and
the next sibling starts after all of them. -/
theorem headers_pairwise (h : Tiles bytes limit depth start stop boxes) :
    (Box.preorderAll boxes).Pairwise fun a b => a.offset + a.headerSize ≤ b.offset := by
  induction h with
  | done => simp
  | @opened depth stop b rest framed _ _ children siblings inner outer =>
      have header := framed.headerSize_le
      rw [Box.preorderAll_cons, List.pairwise_cons, List.pairwise_append]
      refine ⟨fun b' member => ?_, inner, outer, fun child within sibling after => ?_⟩
      · rcases List.mem_append.1 member with child | sibling
        · have within := children.range_of_mem b' child
          unfold Box.dataOffset at within
          omega
        · have after := siblings.range_of_mem b' sibling
          omega
      · have within := children.range_of_mem child within
        have after := siblings.range_of_mem sibling after
        omega
  | @closed depth stop b rest framed _ childless siblings outer =>
      have header := framed.headerSize_le
      rw [Box.preorderAll_cons, childless, Box.preorderAll_nil, List.nil_append, List.pairwise_cons]
      refine ⟨fun b' sibling => ?_, outer⟩
      have after := siblings.range_of_mem b' sibling
      omega

/-- Each box takes at least the eight bytes of its header. -/
theorem countAll_le (h : Tiles bytes limit depth start stop boxes) :
    start + 8 * Box.countAll boxes ≤ stop := by
  induction h with
  | done reached _ => simpa [Box.countAll] using reached
  | @opened depth stop b rest framed _ _ _ _ inner outer =>
      have header := framed.measured.le_headerSize
      rw [Box.countAll, Box.count_eq]
      unfold Box.dataOffset at inner
      omega
  | @closed depth stop b rest framed _ childless _ outer =>
      have header := framed.measured.le_headerSize
      have length := framed.headerSize_le
      rw [Box.countAll, Box.count_eq, childless, Box.countAll]
      omega

end Tiles

namespace Content

/-- A version and flags take four bytes. -/
theorem of_run_versionFlags {c d : Cursor} {head : VersionFlags}
    (h : versionFlags.run c = .ok head d) :
    c.position + 4 ≤ c.size ∧ d = { c with position := c.position + 4 } := by
  obtain ⟨version, c', first, h⟩ := Cursor.ok_of_run_bind h
  obtain ⟨flags, d', second, ⟨⟩⟩ := Cursor.ok_of_run_bind h
  obtain ⟨_, rfl⟩ := Cursor.of_run_unsigned first
  obtain ⟨inside, rfl⟩ := Cursor.of_run_read second
  exact ⟨inside, rfl⟩

/-- The rule of a container reads its fixed fields and nothing else. -/
theorem position_of_decode {id payload : Bytes} {decode : Reading Content} {content : Content}
    {c : Cursor} (known : decoder? id = some decode)
    (decoded : decode.decode payload = .ok (content, c)) (container : content.category = .container) :
    c.position = content.fixedSize ∧ content.fixedSize ≤ payload.length := by
  have code := (ends_of_decoder? none known).decode payload
  rw [decoded] at code
  have ran := Reading.run_of_decode decoded
  -- the contents say the type code, and the type code says the rule
  cases content with
  | metaBox head =>
      obtain rfl := Option.some.inj code
      obtain rfl : (do return metaBox (← versionFlags)) = decode := Option.some.inj known
      obtain ⟨_, _, first, ⟨⟩⟩ := Cursor.ok_of_run_bind ran
      obtain ⟨inside, rfl⟩ := of_run_versionFlags first
      exact ⟨rfl, inside⟩
  | itemInformation head count =>
      obtain rfl := Option.some.inj code
      obtain rfl : decodeItemInformation = decode := Option.some.inj known
      obtain ⟨head, _, first, ran⟩ := Cursor.ok_of_run_bind ran
      obtain ⟨count, _, second, ⟨⟩⟩ := Cursor.ok_of_run_bind ran
      obtain ⟨_, rfl⟩ := of_run_versionFlags first
      obtain ⟨inside, rfl⟩ := Cursor.of_run_unsigned second
      have fields : 0 + 4 + (if (head.version == 0) = true then 2 else 4) =
          (itemInformation head count).fixedSize := by
        simp only [fixedSize, beq_iff_eq]
        split <;> rfl
      exact ⟨fields, fields ▸ inside⟩
  | itemProperties | itemPropertyContainer | dataInformation =>
      obtain rfl := Option.some.inj code
      obtain rfl : (return _) = decode := Option.some.inj known
      cases ran
      exact ⟨rfl, Nat.zero_le _⟩
  | _ => cases container

end Content

variable (strict) in
/-- What a container takes from its payload are its fixed fields. -/
theorem ends_readContent_container (id : Bytes) (offset : Nat) (payload : Bytes) :
    (readContent strict id offset payload).Ends fun r => r.1.category = .container →
      r.2 = r.1.fixedSize ∧ r.1.fixedSize ≤ payload.length := by
  unfold readContent
  split
  · exact (Outcome.Ends.of_silent rfl).bind fun _ _ => .pure fun container => nomatch container
  cases known : Content.decoder? id with
  | none =>
      exact (Outcome.Ends.of_silent rfl).bind fun _ _ => .pure fun container => nomatch container
  | some decode =>
      have structural := (Content.ends_of_decoder? none known).decode payload
      refine Outcome.Ends.rescue ?_ fun cause => ?_
      · cases decoded : decode.decode payload with
        | error p =>
            rw [decoded] at structural
            exact .fail structural
        | ok r => exact .pure (Content.position_of_decode known decoded)
      · apply (Outcome.Ends.require _ rfl).bind
        intro _ _
        apply (Outcome.Ends.flag strict rfl).bind
        exact fun _ _ => .pure fun container => nomatch container

/-- The header that is read says how the box lies in its range. -/
theorem isFramed_of_readHeader {header : BoxHeader start stop}
    (read : readHeader bytes start stop = .ok header) (content : Content) (children : List Box) :
    Box.IsFramed bytes stop ⟨header.id, start, header.length, header.size, content, children⟩ := by
  obtain ⟨id, size, length⟩ := readHeader_eq_iff.1 read
  have large := header.size_le
  have inside := header.length_le
  refine ⟨id.symm, ?_, large, inside⟩
  by_cases rest : shortLength bytes start = 0
  · have room := header.le_size
    have last : stop - start = header.length := by rw [← length, boxLength, if_pos rest]
    exact .rest (by simp [← size, headerSize, rest]) rest (by dsimp only; omega)
  · by_cases long : shortLength bytes start = 1
    · exact .long (by simp [← size, headerSize, long]) long (by simp [← length, boxLength, long])
    · exact .short (by simp [← size, headerSize, long]) (by simp [← length, boxLength, rest, long])

variable (bytes strict limit) in
/-- The boxes that are read tile their range. -/
theorem ends_readBoxes_tiles (depth start stop : Nat) :
    (readBoxes bytes strict limit depth start stop).Ends fun boxes =>
      start ≤ stop → Tiles bytes limit depth start stop boxes := by
  induction depth, start, stop using readBoxes.induct bytes limit with
  | case1 depth start stop done =>
      rw [readBoxes, dif_pos done]
      exact .pure fun within => .done within (by omega)
  | case2 depth start stop more short =>
      rw [readBoxes, dif_neg more, if_pos short]
      exact (Outcome.Ends.flag strict rfl).bind fun _ _ =>
        .pure fun within => .done within (by omega)
  | case3 depth start stop more long p failed =>
      rw [readBoxes, dif_neg more, if_neg long, failed]
      exact .fail (structural_of_readHeader bytes failed)
  | case4 depth start stop more long header read _ _ _ inside past children siblings =>
      rw [readBoxes, dif_neg more, if_neg long, read]
      have framed := isFramed_of_readHeader read
      apply (ends_readContent_container strict _ _ _).bind
      rintro ⟨content, used⟩ fixed
      dsimp only at fixed
      have nested : (if content.category = .container then
            if limit < (depth : Int) + 1 then do
              Outcome.flag strict (.boxTooDeep header.id start limit)
              pure []
            else readBoxes bytes strict limit (depth + 1) (inside + used) past
          else pure [] : Outcome (List Box)).Ends fun boxes =>
            (content.category = .container ∧ (depth : Int) < limit →
              Tiles bytes limit (depth + 1) (inside + content.fixedSize) past boxes) ∧
            (¬ (content.category = .container ∧ (depth : Int) < limit) → boxes = []) := by
        split
        · rename_i container
          obtain ⟨rfl, room⟩ := fixed container
          have reached : inside + content.fixedSize ≤ past := by
            rw [Bytes.slice_length] at room
            have : inside ≤ past := Nat.add_le_add_left header.size_le start
            omega
          split
          · exact (Outcome.Ends.flag strict rfl).bind fun _ _ =>
              .pure ⟨fun shallow => absurd shallow.2 (by omega), fun _ => rfl⟩
          · refine (children _).mono fun boxes tiled => ⟨fun _ => tiled reached, fun kept => ?_⟩
            exact absurd ⟨container, by omega⟩ kept
        · rename_i leaf
          exact .pure ⟨fun opened => absurd opened.1 leaf, fun _ => rfl⟩
      refine nested.bind fun boxes inner => siblings.bind fun rest others => .pure fun _ => ?_
      have whole := framed content boxes
      by_cases opened : content.category = .container ∧ (depth : Int) < limit
      · exact .opened whole opened.1 opened.2 (inner.1 opened) (others whole.inside)
      · exact .closed whole opened (inner.2 opened) (others whole.inside)

/-- The boxes of a file that is read tile the file. Their headers are apart, and there are no more of
them than headers that the file has room for. -/
theorem tiles_of_readAll {outcome : Outcome Unit} {s : Session}
    (run : (Session.readAll limit).run (Session.start bytes strict) = (outcome, s))
    (read : outcome.result = .ok ()) :
    Tiles bytes limit 0 0 bytes.length s.boxes ∧
      (Box.preorderAll s.boxes).Pairwise (fun a b => a.offset + a.headerSize ≤ b.offset) ∧
      8 * Box.countAll s.boxes ≤ bytes.length := by
  have ended : ((Session.readAll limit).run (Session.start bytes strict)).1.result = .ok () := by
    rw [run]
    exact read
  obtain ⟨boxes, found, state⟩ := Session.run_readAll_snd ended
  have ends := ends_readBoxes_tiles bytes strict limit 0 0 bytes.length
  have known : (readBoxes bytes strict limit 0 0 bytes.length).result = .ok boxes := found
  unfold Outcome.Ends at ends
  rw [known] at ends
  have tiles := ends (Nat.zero_le _)
  have room := tiles.countAll_le
  obtain rfl : s = { Session.start bytes strict with boxes := boxes } := by rw [← state, run]
  exact ⟨tiles, tiles.headers_pairwise, by simpa using room⟩

/-- A file with a long container, whose last box inside lasts to its end, and a container that lasts
to the end of the file, where three bytes are left. -/
def nested : Bytes :=
  [0, 0, 0, 16, 102, 116, 121, 112, 104, 101, 105, 99, 0, 0, 0, 0] ++
    [0, 0, 0, 1, 109, 101, 116, 97, 0, 0, 0, 0, 0, 0, 0, 42, 0, 0, 0, 0] ++
    [0, 0, 0, 14, 105, 105, 110, 102, 0, 0, 0, 0, 0, 0] ++ [0, 0, 0, 0, 100, 105, 110, 102] ++
    [0, 0, 0, 0, 105, 112, 114, 112] ++ [0, 0, 0, 8, 102, 114, 101, 101] ++ [0, 0, 0]

/-- The six boxes of the file, if no more than one container is opened on the way to a box; so the
two containers inside the first one stay closed. -/
def nestedBoxes : List Box :=
  [⟨Bytes.ascii "ftyp", 0, 16, 8, .fileType (Bytes.ascii "heic") 0 [], []⟩,
    ⟨Bytes.ascii "meta", 16, 42, 16, .metaBox ⟨0, 0⟩,
      [⟨Bytes.ascii "iinf", 36, 14, 8, .itemInformation ⟨0, 0⟩ 0, []⟩,
        ⟨Bytes.ascii "dinf", 50, 8, 8, .dataInformation, []⟩]⟩,
    ⟨Bytes.ascii "iprp", 58, 19, 8, .itemProperties,
      [⟨Bytes.ascii "free", 66, 8, 8, .free, []⟩]⟩]

theorem readAll_nested :
    (Session.readAll 1).run (Session.start nested false) =
      (⟨[.notice (.integrity (.boxTooDeep (Bytes.ascii "iinf") 36 1)),
          .notice (.integrity (.boxTooDeep (Bytes.ascii "dinf") 50 1)),
          .notice (.integrity (.extraBytes 3 74))], .ok ()⟩,
        { Session.start nested false with boxes := nestedBoxes }) := by
  with_unfolding_all rfl

/-- The boxes tile the file. -/
theorem tiles_of_readAll_nested :
    ((Session.readAll 1).run (Session.start nested false)).1.result = .ok () ∧
      Tiles nested 1 0 0 nested.length nestedBoxes ∧
      (Box.preorderAll nestedBoxes).Pairwise (fun a b => a.offset + a.headerSize ≤ b.offset) ∧
      8 * Box.countAll nestedBoxes ≤ nested.length :=
  ⟨by rw [readAll_nested], tiles_of_readAll readAll_nested rfl⟩

end ImageMetadata.Heif
