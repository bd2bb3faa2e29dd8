import ImageMetadata.Proofs.Safety.Heif
import ImageMetadata.Proofs.Takes
import ImageMetadata.Proofs.Yields

/-!
# How contents are read

The contents of a box come from its payload in one of four ways. The type code decides whether they
are those of a container; a container takes them from the start of its payload, and what follows may
be any boxes. The contents of a box that items can be found without may be unreadable, which is
worth one warning.
-/

namespace ImageMetadata.Heif

/-- The contents that a payload gives, with what is reported and the number of bytes that they take.
-/
inductive ReadsContent (strict : Bool) (id : Bytes) (offset : Nat) (payload : Bytes) :
    List Event → Content → Nat → Prop
  | media (same : id = Bytes.ascii "mdat") :
      ReadsContent strict id offset payload [.trace (.mediaDataSkipped offset)] .mediaData 0
  | unrecognized (other : id ≠ Bytes.ascii "mdat") (unruled : Content.decoder? id = none) :
      ReadsContent strict id offset payload [.trace (.unrecognizedBox id offset)] .unknown 0
  | decoded {decode : Reading Content} {content : Content} {c : Cursor}
      (ruled : Content.decoder? id = some decode)
      (decoded : decode.decode payload = .ok (content, c)) :
      ReadsContent strict id offset payload [] content c.position
  | unreadable {decode : Reading Content} {cause : Problem}
      (ruled : Content.decoder? id = some decode)
      (failed : decode.decode payload = .error cause) (optional : Content.isRequired id = false)
      (lenient : strict = false) :
      ReadsContent strict id offset payload
        [.notice (.integrity (.unreadableBox id offset cause))] .unknown 0

variable {strict : Bool} {id : Bytes} {offset : Nat} {payload payload' : Bytes}
  {events : List Event} {content : Content} {used : Nat}

/-- Media data have no rule. -/
theorem Content.ne_media_of_decoder? {decode : Reading Content}
    (ruled : Content.decoder? id = some decode) : id ≠ Bytes.ascii "mdat" := by
  rintro rfl
  cases ruled

theorem readContent_of_decoded {decode : Reading Content} {c : Cursor}
    (ruled : Content.decoder? id = some decode)
    (decoded : decode.decode payload = .ok (content, c)) :
    readContent strict id offset payload = pure (content, c.position) := by
  unfold readContent
  rw [if_neg (Content.ne_media_of_decoder? ruled), ruled]
  dsimp only
  rw [decoded]
  rfl

/-- What cannot be decoded is flagged, unless the type code is required. -/
theorem readContent_of_failed {decode : Reading Content} {cause : Problem}
    (ruled : Content.decoder? id = some decode) (failed : decode.decode payload = .error cause) :
    readContent strict id offset payload = do
      Outcome.require (!Content.isRequired id) (.unreadableBox id offset cause)
      Outcome.flag strict (.unreadableBox id offset cause)
      return (.unknown, 0) := by
  have structural := (Content.ends_of_decoder? none ruled).decode payload
  rw [failed] at structural
  unfold readContent
  rw [if_neg (Content.ne_media_of_decoder? ruled), ruled]
  dsimp only
  rw [failed]
  exact if_pos structural

theorem readContent_eq_iff :
    readContent strict id offset payload = ⟨events, .ok (content, used)⟩ ↔
      ReadsContent strict id offset payload events content used := by
  constructor
  · intro h
    by_cases same : id = Bytes.ascii "mdat"
    · rw [readContent, if_pos same] at h
      cases h
      exact .media same
    cases ruled : Content.decoder? id with
    | none =>
        rw [readContent, if_neg same, ruled] at h
        cases h
        exact .unrecognized same ruled
    | some decode =>
        cases decoded : decode.decode payload with
        | ok r =>
            rw [readContent_of_decoded ruled decoded] at h
            cases h
            exact .decoded ruled decoded
        | error cause =>
            rw [readContent_of_failed ruled decoded] at h
            simp only [Outcome.bind_eq_iff, Outcome.require_eq_iff, Outcome.flag_eq_iff,
              Outcome.pure_eq_iff] at h
            obtain ⟨_, _, _, ⟨optional, rfl⟩, ⟨_, _, _, ⟨lenient, rfl⟩, ⟨rfl, same⟩, rfl⟩, rfl⟩ := h
            cases same
            exact .unreadable ruled decoded (by simpa using optional) lenient
  · rintro (same | ⟨other, unruled⟩ | ⟨ruled, decoded⟩ | ⟨ruled, failed, optional, lenient⟩)
    · rw [readContent, if_pos same]
      rfl
    · rw [readContent, if_neg other, unruled]
      rfl
    · exact readContent_of_decoded ruled decoded
    · rw [readContent_of_failed ruled failed, optional, lenient]
      rfl

namespace Content

/-- The type codes of containers. -/
def containerCodes : List Bytes := ["meta", "iinf", "iprp", "ipco", "dinf"].map Bytes.ascii

theorem isLocal_versionFlags : versionFlags.IsLocal :=
  (Reading.IsLocal.unsigned 1).bind fun _ => (Reading.IsLocal.read 3).bind fun _ => .pure _

/-- The rule of a container is local. -/
theorem isLocal_of_decoder? {decode : Reading Content} (ruled : decoder? id = some decode)
    (container : id ∈ containerCodes) : decode.IsLocal := by
  simp only [containerCodes, List.map_cons, List.map_nil, List.mem_cons, List.not_mem_nil,
    or_false] at container
  rcases container with rfl | rfl | rfl | rfl | rfl
  · obtain rfl : (do return metaBox (← versionFlags)) = decode := Option.some.inj ruled
    exact isLocal_versionFlags.bind fun _ => .pure _
  · obtain rfl : decodeItemInformation = decode := Option.some.inj ruled
    exact isLocal_versionFlags.bind fun _ => (Reading.IsLocal.unsigned _).bind fun _ => .pure _
  all_goals
    obtain rfl : (return _) = decode := Option.some.inj ruled
    exact .pure _

theorem code_mem_containerCodes {content : Content} (typed : content.code = some id) :
    id ∈ containerCodes ↔ content.category = .container := by
  cases content with
  | unknown => cases typed
  | _ =>
      cases typed
      simp only [category, reduceCtorEq]
      decide

/-- Every container has a rule, and one that cannot be decoded is required. -/
theorem exists_decoder? (payload : Bytes) (container : id ∈ containerCodes) :
    ∃ decode, decoder? id = some decode ∧
      (isRequired id = true ∨ ∃ a, decode.decode payload = .ok a) := by
  simp only [containerCodes, List.map_cons, List.map_nil, List.mem_cons, List.not_mem_nil,
    or_false] at container
  rcases container with rfl | rfl | rfl | rfl | rfl
  · exact ⟨_, rfl, .inl rfl⟩
  · exact ⟨_, rfl, .inl rfl⟩
  all_goals exact ⟨_, rfl, .inr ⟨_, rfl⟩⟩

end Content

/-- At most one warning, about contents that cannot be decoded. -/
def MayWarn (id : Bytes) (offset : Nat) (events : List Event) : Prop :=
  events = [] ∨ ∃ cause, events = [.notice (.integrity (.unreadableBox id offset cause))]

namespace ReadsContent

theorem fits (h : ReadsContent strict id offset payload events content used) : content.Fits id := by
  have ends := ends_readContent strict id offset payload
  rw [readContent_eq_iff.2 h] at ends
  exact ends

/-- The type code says whether the contents are those of a container. -/
theorem category_iff (h : ReadsContent strict id offset payload events content used) :
    content.category = .container ↔ id ∈ Content.containerCodes := by
  cases h with
  | media same =>
      rw [same]
      decide
  | unrecognized other unruled =>
      refine iff_of_false (by decide) fun container => ?_
      obtain ⟨decode, ruled, _⟩ := Content.exists_decoder? payload container
      cases unruled.symm.trans ruled
  | decoded ruled decoded =>
      have code := (Content.ends_of_decoder? none ruled).decode payload
      rw [decoded] at code
      exact (Content.code_mem_containerCodes code).symm
  | unreadable ruled failed optional lenient =>
      refine iff_of_false (by decide) fun container => ?_
      obtain ⟨decode, ruled', required | ⟨a, decoded⟩⟩ :=
        Content.exists_decoder? payload container
      · cases optional.symm.trans required
      · cases Option.some.inj (ruled.symm.trans ruled')
        cases failed.symm.trans decoded

/-- A container is read from the bytes that its contents take. -/
theorem congr_of_container (h : ReadsContent strict id offset payload events content used)
    (container : content.category = .container)
    (same : payload'.take used = payload.take used) :
    ReadsContent strict id offset payload' events content used := by
  have code := h.category_iff.1 container
  cases h with
  | @decoded _ _ c ruled decoded =>
      have again := (Content.isLocal_of_decoder? ruled code).decode_congr decoded same
      exact .decoded (c := { c with bytes := payload' }) ruled again
  | _ => cases container

/-- With another payload, a box that items can be found without differs in its contents and in at
most one warning. -/
theorem exists_of_optional (h : ReadsContent false id offset payload events content used)
    (optional : Content.isRequired id = false) (payload' : Bytes) :
    ∃ common own own' content' used', common ++ own = events ∧ MayWarn id offset own ∧
      MayWarn id offset own' ∧
      ReadsContent false id offset payload' (common ++ own') content' used' := by
  have again {decode : Reading Content} (ruled : Content.decoder? id = some decode) :
      ∃ own content used, MayWarn id offset own ∧
        ReadsContent false id offset payload' own content used := by
    cases decoded : decode.decode payload' with
    | ok r => exact ⟨[], _, _, .inl rfl, .decoded ruled decoded⟩
    | error cause => exact ⟨_, _, _, .inr ⟨cause, rfl⟩, .unreadable ruled decoded optional rfl⟩
  cases h with
  | media same => exact ⟨_, [], [], _, _, List.append_nil _, .inl rfl, .inl rfl, .media same⟩
  | unrecognized other unruled =>
      exact ⟨_, [], [], _, _, List.append_nil _, .inl rfl, .inl rfl, .unrecognized other unruled⟩
  | decoded ruled _ =>
      obtain ⟨own', content', used', warned, read⟩ := again ruled
      exact ⟨[], [], own', content', used', rfl, .inl rfl, warned, read⟩
  | unreadable ruled _ _ _ =>
      obtain ⟨own', content', used', warned, read⟩ := again ruled
      exact ⟨[], _, own', content', used', rfl, .inr ⟨_, rfl⟩, warned, read⟩

end ReadsContent

end ImageMetadata.Heif
