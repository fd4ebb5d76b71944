/-
  ValProtocol.Files.MetaStrings
  ─────────────────────────────
  The strings of a SEND_META as the receiver reads them
  (`src/val_receiver.c` lines 326-342, `src/val_wire.c` lines 110-118): the
  two fields are copied as they came, and `val_clean_filename` and whoever
  takes `sender_path` walk through memory up to a NUL.

    • `cleanScanner_onField` — inside its field the walk of
      `val_clean_filename` is `cleanFilename`,
    • `meta_contained_iff`   — the walks stay inside their fields exactly for
      a payload with a NUL in `sender_path` and, in `filename`, a NUL or no
      separator before the last byte.

  The sanitizer counts the characters it emits.  A separator emits none, so
  each one moves the end of the walk one byte further.
-/
import ValProtocol.Lib.Scanners
import ValProtocol.Files.Names

namespace ValProtocol

open LittleEndian

/-! ## §1. The walks. -/

/-- The loop of `val_clean_filename` into a buffer of `cap` bytes. -/
def cleanScanner (cap : Nat) : Scanner UInt8 UInt8 where
  stop c := c == 0
  full out := !decide (out.length + 1 < cap)
  emit c := if isPathSep c then [] else [cleanChar c]

/-- A C string, read up to its NUL. -/
def textScanner : Scanner UInt8 UInt8 where
  stop c := c == 0
  full _ := false
  emit c := [c]

/-- `val_meta_payload_t` on the receiver's stack: the fields in their order, the
size in the byte order of the machine, around them whatever was there. -/
def metaImage (bigEndian : Bool) (stack : Memory UInt8) (p : MetaPayload) : Memory UInt8 :=
  ((stack.write 0 p.filename).write (maxFilename + 1) p.senderPath).write
    ((maxFilename + 1) + (maxPath + 1))
    (if bigEndian then (putLe 8 p.fileSize).reverse else putLe 8 p.fileSize)

/-- `clean_name`: `_` where the walk left nothing. -/
def ReceivesName (m : Memory UInt8) (name : Bytes) : Prop :=
  ∃ out, (cleanScanner (maxFilename + 1)).Yields m ⟨0, []⟩ out
    ∧ name = if out = [] then [0x5F] else out

/-- The C string that `meta.sender_path` points to. -/
def ReceivesPath (m : Memory UInt8) (path : Bytes) : Prop :=
  textScanner.Yields m ⟨maxFilename + 1, []⟩ path

/-- **Both strings end inside their fields**: no walk reads behind its field, and
what it finds is decided by the field. -/
structure MetaContained (bigEndian : Bool) (stack : Memory UInt8) (payload : Bytes) : Prop where
  name_stays : (cleanScanner (maxFilename + 1)).StaysBelow
    (metaImage bigEndian stack (deserializeMeta payload)) (maxFilename + 1) ⟨0, []⟩
  name_decided : ∃ name, ∀ bigEndian' stack' payload', payload'.length = wireMetaSize →
    (deserializeMeta payload').filename = (deserializeMeta payload).filename →
    ReceivesName (metaImage bigEndian' stack' (deserializeMeta payload')) name
  path_stays : textScanner.StaysBelow (metaImage bigEndian stack (deserializeMeta payload))
    ((maxFilename + 1) + (maxPath + 1)) ⟨maxFilename + 1, []⟩
  path_decided : ∃ path, ∀ bigEndian' stack' payload', payload'.length = wireMetaSize →
    (deserializeMeta payload').senderPath = (deserializeMeta payload).senderPath →
    ReceivesPath (metaImage bigEndian' stack' (deserializeMeta payload')) path

/-! ## §2. Where a field ends a walk. -/

theorem textScanner_onField (field out : Bytes) :
    (textScanner.onField out field).isSome = true ↔ 0 ∈ field := by
  -- a NUL is the only thing that ends it
  induction field generalizing out with
  | nil => simp [Scanner.onField]
  | cons c cs ih =>
      unfold Scanner.onField
      by_cases hc : c = 0
      · simp [textScanner, hc]
      · have hnot : ¬ (textScanner.stop c || textScanner.full out) = true := by
          simp [textScanner, hc]
        rw [if_neg hnot, ih, List.mem_cons]
        constructor
        · exact Or.inr
        · rintro (h | h)
          · exact absurd h.symm hc
          · exact h

/-- The walk counts the characters that are no separators. -/
theorem cleanScanner_leaves (cap : Nat) {field : Bytes} (hne : field ≠ []) (out : Bytes) :
    (cleanScanner cap).onField out field = none ↔ 0 ∉ field
      ∧ out.length + field.dropLast.countP (fun c => !isPathSep c) + 1 < cap := by
  induction field generalizing out with
  | nil => exact absurd rfl hne
  | cons c cs ih =>
      unfold Scanner.onField
      have hleft : ((cleanScanner cap).stop c || (cleanScanner cap).full out) = true
          ↔ c = 0 ∨ ¬ out.length + 1 < cap := by
        simp [cleanScanner]
      -- a separator is passed over without taking room
      by_cases h : c = 0 ∨ ¬ out.length + 1 < cap
      · rw [if_pos (hleft.mpr h)]
        refine iff_of_false (by simp) ?_
        rintro ⟨hnul, hroom⟩
        rcases h with rfl | h
        · exact hnul (List.mem_cons_self ..)
        · omega
      · rw [if_neg (fun hl => h (hleft.mp hl))]
        obtain ⟨hc, hroom⟩ := not_or.mp h
        rw [not_not] at hroom
        cases cs with
        | nil =>
            refine iff_of_true rfl ⟨?_, by simpa using hroom⟩
            rw [List.mem_singleton]
            exact fun h0 => hc h0.symm
        | cons d ds =>
            rw [ih (by simp), List.dropLast_cons_cons, List.countP_cons, List.length_append]
            have hemit : ((cleanScanner cap).emit c).length = if !isPathSep c then 1 else 0 := by
              by_cases hsep : isPathSep c = true <;> simp [cleanScanner, hsep]
            rw [hemit, List.mem_cons (a := 0) (b := c)]
            constructor
            · rintro ⟨hnul, hlt⟩
              refine ⟨?_, by omega⟩
              rintro (h0 | h0)
              · exact hc h0.symm
              · exact hnul h0
            · rintro ⟨hnul, hlt⟩
              exact ⟨fun h0 => hnul (Or.inr h0), by omega⟩

/-- A field as long as the buffer ends the walk with a NUL, or when nothing in
front of its last byte is passed over. -/
theorem cleanScanner_ends {field : Bytes} (hlen : field.length = maxFilename + 1) :
    ((cleanScanner (maxFilename + 1)).onField [] field).isSome = true
      ↔ 0 ∈ field ∨ ∀ c ∈ field.take maxFilename, isPathSep c = false := by
  have hne : field ≠ [] := by
    rintro rfl
    cases hlen
  have hdrop : field.dropLast = field.take maxFilename := by
    rw [List.dropLast_eq_take, hlen, Nat.add_sub_cancel]
  have htake : (field.take maxFilename).length = maxFilename := by
    rw [List.length_take]
    omega
  have hcount := List.countP_eq_length (p := fun c => !isPathSep c) (l := field.take maxFilename)
  have hle := List.countP_le_length (p := fun c => !isPathSep c) (l := field.take maxFilename)
  rw [htake] at hcount hle
  have hleaves := cleanScanner_leaves (maxFilename + 1) hne []
  rw [hdrop, List.length_nil, Nat.zero_add] at hleaves
  rw [← not_iff_not, Bool.not_eq_true, Option.isSome_eq_false_iff, Option.isNone_iff_eq_none,
    hleaves, not_or]
  apply and_congr_right
  intro _
  constructor
  · intro hlt hall
    have := hcount.mpr (by simpa using hall)
    omega
  · intro hsome
    have : ¬ (field.take maxFilename).countP (fun c => !isPathSep c) = maxFilename := by
      intro heq
      exact hsome (by simpa using hcount.mp heq)
    omega

/-- Inside the field the walk is `cleanFilename`. -/
theorem cleanScanner_onField {cap : Nat} (field rest : Bytes) : ∀ {out r : Bytes},
    (cleanScanner cap).onField out field = some r →
    r = out ++ cleanLoop (cap - 1 - out.length) (field ++ rest) := by
  induction field with
  | nil =>
      intro out r h
      cases h
  | cons c cs ih =>
      intro out r h
      unfold Scanner.onField at h
      rw [List.cons_append]
      by_cases hc : c = 0
      · -- the NUL
        have hleft : ((cleanScanner cap).stop c || (cleanScanner cap).full out) = true := by
          simp [cleanScanner, hc]
        rw [if_pos hleft] at h
        obtain rfl := Option.some.inj h
        cases cap - 1 - out.length with
        | zero => simp [cleanLoop]
        | succ room => simp [cleanLoop, hc]
      by_cases hroom : out.length + 1 < cap
      · have hleft : ¬ ((cleanScanner cap).stop c || (cleanScanner cap).full out) = true := by
          simp [cleanScanner, hc, hroom]
        rw [if_neg hleft] at h
        obtain ⟨room, hr⟩ : ∃ room, cap - 1 - out.length = room + 1 :=
          ⟨cap - 2 - out.length, by omega⟩
        rw [ih h, hr, cleanLoop, if_neg hc]
        -- a separator leaves the room, any other character takes one byte of it
        by_cases hsep : isPathSep c = true
        · simp [cleanScanner, hsep, hr]
        · have hroom' : cap - 1 - (out.length + 1) = room := by omega
          simp [cleanScanner, hsep, hroom']
      · -- the buffer is full
        have hleft : ((cleanScanner cap).stop c || (cleanScanner cap).full out) = true := by
          simp [cleanScanner, hroom]
        rw [if_pos hleft] at h
        obtain rfl := Option.some.inj h
        have hzero : cap - 1 - out.length = 0 := by omega
        simp [hzero, cleanLoop]

/-! ## §3. The two fields in memory. -/

section Image

variable {bigEndian : Bool} {stack : Memory UInt8} {payload : Bytes}

theorem deserializeMeta_filename_length (h : payload.length = wireMetaSize) :
    (deserializeMeta payload).filename.length = maxFilename + 1 := by
  show (slice 0 (maxFilename + 1) payload).length = _
  rw [slice, List.length_take, List.length_drop, h]
  rfl

theorem deserializeMeta_senderPath_length (h : payload.length = wireMetaSize) :
    (deserializeMeta payload).senderPath.length = maxPath + 1 := by
  show (slice (maxFilename + 1) (maxPath + 1) payload).length = _
  rw [slice, List.length_take, List.length_drop, h]
  rfl

theorem read_filename (h : payload.length = wireMetaSize) :
    (metaImage bigEndian stack (deserializeMeta payload)).read 0
        (deserializeMeta payload).filename.length
      = (deserializeMeta payload).filename := by
  have hlen := deserializeMeta_filename_length h
  unfold metaImage
  rw [Memory.read_write_before _ (by omega), Memory.read_write_before _ (by omega),
    Memory.read_write_self]

theorem read_senderPath (h : payload.length = wireMetaSize) :
    (metaImage bigEndian stack (deserializeMeta payload)).read (maxFilename + 1)
        (deserializeMeta payload).senderPath.length
      = (deserializeMeta payload).senderPath := by
  have hlen := deserializeMeta_senderPath_length h
  unfold metaImage
  rw [Memory.read_write_before _ (by omega), Memory.read_write_self]

/-- Where the name stays inside its field it is what `cleanFilename` makes of the
field, whatever stands behind it. -/
theorem receivesName_of_ends (h : payload.length = wireMetaSize)
    (hends : ((cleanScanner (maxFilename + 1)).onField []
      (deserializeMeta payload).filename).isSome = true) (rest : Bytes) :
    ReceivesName (metaImage bigEndian stack (deserializeMeta payload))
      (cleanFilename (maxFilename + 1) ((deserializeMeta payload).filename ++ rest)) := by
  obtain ⟨out, hout⟩ := Option.isSome_iff_exists.mp hends
  refine ⟨out, (Scanner.ends_spec _ ⟨0, []⟩ (read_filename h) hout).2, ?_⟩
  have hloop := cleanScanner_onField _ rest hout
  rw [List.nil_append, List.length_nil, Nat.sub_zero] at hloop
  rw [cleanFilename, ← hloop]
  by_cases hnil : out = []
  · rw [if_pos ⟨hnil, by decide⟩, if_pos hnil]
  · rw [if_neg (fun hc => hnil hc.1), if_neg hnil]

/-- The path, where it stays inside its field. -/
theorem receivesPath_of_ends (h : payload.length = wireMetaSize) {path : Bytes}
    (hends : textScanner.onField [] (deserializeMeta payload).senderPath = some path) :
    ReceivesPath (metaImage bigEndian stack (deserializeMeta payload)) path :=
  (Scanner.ends_spec _ ⟨maxFilename + 1, []⟩ (read_senderPath h) hends).2

theorem name_stays_iff (h : payload.length = wireMetaSize) :
    (cleanScanner (maxFilename + 1)).StaysBelow
        (metaImage bigEndian stack (deserializeMeta payload)) (maxFilename + 1) ⟨0, []⟩
      ↔ 0 ∈ (deserializeMeta payload).filename
        ∨ ∀ c ∈ (deserializeMeta payload).filename.take maxFilename, isPathSep c = false := by
  have hlen := deserializeMeta_filename_length h
  rw [← cleanScanner_ends hlen]
  have hread : (metaImage bigEndian stack (deserializeMeta payload)).read 0
      (deserializeMeta payload).filename.length = (deserializeMeta payload).filename :=
    read_filename h
  have := (cleanScanner (maxFilename + 1)).staysBelow_iff ⟨0, []⟩ hread
  rwa [hlen, Nat.zero_add] at this

theorem path_stays_iff (h : payload.length = wireMetaSize) :
    textScanner.StaysBelow (metaImage bigEndian stack (deserializeMeta payload))
        ((maxFilename + 1) + (maxPath + 1)) ⟨maxFilename + 1, []⟩
      ↔ 0 ∈ (deserializeMeta payload).senderPath := by
  have hlen := deserializeMeta_senderPath_length h
  have hread : (metaImage bigEndian stack (deserializeMeta payload)).read (maxFilename + 1)
      (deserializeMeta payload).senderPath.length = (deserializeMeta payload).senderPath :=
    read_senderPath h
  have := textScanner.staysBelow_iff ⟨maxFilename + 1, []⟩ hread
  rwa [hlen, textScanner_onField] at this

end Image

/-- **When both strings end inside their fields**: the path has its NUL, and the
name has one or nothing in front of its last byte that the sanitizer passes
over. -/
theorem meta_contained_iff (bigEndian : Bool) (stack : Memory UInt8) {payload : Bytes}
    (h : payload.length = wireMetaSize) :
    MetaContained bigEndian stack payload
      ↔ (0 ∈ (deserializeMeta payload).filename
          ∨ ∀ c ∈ (deserializeMeta payload).filename.take maxFilename, isPathSep c = false)
        ∧ 0 ∈ (deserializeMeta payload).senderPath := by
  constructor
  · intro hc
    exact ⟨(name_stays_iff h).mp hc.name_stays, (path_stays_iff h).mp hc.path_stays⟩
  · rintro ⟨hname, hpath⟩
    refine ⟨(name_stays_iff h).mpr hname, ?_, (path_stays_iff h).mpr hpath, ?_⟩
    · -- the field alone ends the walk, so it is the same in every memory
      refine ⟨cleanFilename (maxFilename + 1) ((deserializeMeta payload).filename ++ []), ?_⟩
      intro bigEndian' stack' payload' h' hsame
      rw [← hsame]
      apply receivesName_of_ends h'
      rw [hsame]
      exact (cleanScanner_ends (deserializeMeta_filename_length h)).mpr hname
    · obtain ⟨path, hends⟩ := Option.isSome_iff_exists.mp
        ((textScanner_onField (deserializeMeta payload).senderPath []).mpr hpath)
      refine ⟨path, ?_⟩
      intro bigEndian' stack' payload' h' hsame
      apply receivesPath_of_ends h'
      rw [hsame]
      exact hends

/-- `a` from `b`, eight bytes long. -/
def plainMeta : MetaPayload := ⟨nulField maxFilename [0x61], nulField maxPath [0x62], 8⟩

theorem plainMeta_fits : plainMeta.Fits where
  filename := nulField_length _ _
  senderPath := nulField_length _ _
  fileSize := by decide

theorem meta_contained_plain :
    MetaContained false (fun _ => 0) (serializeMeta plainMeta) :=
  (meta_contained_iff false (fun _ => 0) (serializeMeta_length plainMeta_fits)).mpr
    ⟨Or.inl (by rw [deserialize_serializeMeta plainMeta_fits]; decide),
      by rw [deserialize_serializeMeta plainMeta_fits]; decide⟩

/-- A field of separators sends the sanitizer on into the rest. -/
theorem meta_not_contained :
    ¬ ∀ (bigEndian : Bool) (stack : Memory UInt8) (payload : Bytes),
      payload.length = wireMetaSize → MetaContained bigEndian stack payload := by
  intro h
  have hlen : (List.replicate wireMetaSize (0x2F : UInt8)).length = wireMetaSize :=
    List.length_replicate
  -- 128 separators: no NUL, and nothing that fills the buffer
  have hfield : (deserializeMeta (List.replicate wireMetaSize 0x2F)).filename
      = List.replicate (min (maxFilename + 1) wireMetaSize) 0x2F := by
    show ((List.replicate wireMetaSize 0x2F).drop 0).take (maxFilename + 1) = _
    rw [List.drop_zero, List.take_replicate]
  have hstays := (name_stays_iff hlen).mp (h false (fun _ => 0) _ hlen).name_stays
  rw [hfield, List.take_replicate] at hstays
  rcases hstays with hnul | hsep
  · cases List.eq_of_mem_replicate hnul
  · cases hsep 0x2F (List.mem_replicate.mpr ⟨by decide, rfl⟩)

end ValProtocol
