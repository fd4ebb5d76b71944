/-
  ValProtocol.Session.NameAgreement
  ─────────────────────────────────
  A file name from the sender's path to the receiver's target, copy by copy:
  `get_file_size_and_name` and `send_metadata` (`src/val_sender.c` lines
  42-78), the SEND_META on the wire, `clean_name` and the two places that
  build a path from it (`src/val_receiver.c` lines 18-29 and 331-342).

    • `filename_agreement` — both sides use one name, and the validator is
      shown the path that is opened.
-/
import ValProtocol.Files.CleanPath
import ValProtocol.Files.MetaStrings
import ValProtocol.Session.Receiver

namespace ValProtocol

open LittleEndian

/-! ## §1. The copies. -/

/-- The C string `snprintf(dst, cap, "%s", s)` leaves in `dst`. -/
def boundedCopy (cap : Nat) (s : Bytes) : Bytes := (cString s).take (cap - 1)

/-- `out_filename` of `get_file_size_and_name`. -/
def outFilename (filepath : Bytes) : Bytes :=
  let cleaned := cleanFilename (maxFilename + 1) (baseName filepath)
  boundedCopy (maxFilename + 1) cleaned

/-- The structure `send_metadata` fills. -/
def metadata (senderPath : Option Bytes) (fileSize : UInt64) (filename : Bytes) : MetaPayload where
  filename := nulField maxFilename (boundedCopy (maxFilename + 1) filename)
  senderPath :=
    match senderPath with
    | some p =>
        let cleaned := cleanPath (maxPath + 1) p
        nulField maxPath (boundedCopy (maxPath + 1) cleaned)
    | none => nulField maxPath []
  fileSize := fileSize.toNat

/-- What `val_internal_join_path` writes where nothing is cut off; its length is
the value returned. -/
def joinedPath (sep : UInt8) (dir name : Bytes) : Bytes :=
  if dir ≠ [] then dir ++ sep :: name else name

/-- `val_construct_target_path`. -/
def constructTargetPath (sep : UInt8) (cap : Nat) (dir filename : Bytes) : Except Status Bytes :=
  let sanitized := cleanFilename (maxFilename + 1) filename
  let n := (joinedPath sep dir sanitized).length
  if n ≥ cap then .error .invalidArg else .ok (joinPath sep cap dir sanitized)

/-- `full_output_path`. -/
def fullOutputPath (sep : UInt8) (dir cleanName : Bytes) : Bytes :=
  if dir ≠ [] then joinPath sep 512 dir cleanName else boundedCopy 512 cleanName

/-! ## §2. A clean name survives them. -/

theorem cString_eq_self {s : Bytes} (h : ∀ c ∈ s, c ≠ 0) : cString s = s := by
  apply List.takeWhile_eq_self_iff.mpr
  intro c hc
  simpa using h c hc

theorem CleanName.boundedCopy_eq {name : Bytes} (h : CleanName name) {cap : Nat}
    (hcap : maxFilename < cap) : boundedCopy cap name = name := by
  have hlen := h.length_le
  rw [boundedCopy, cString_eq_self (fun c hc => (h.chars c hc).notNul),
    List.take_of_length_le (by omega)]

/-- Cleaning a clean name changes nothing. -/
theorem CleanName.cleanFilename_eq {name : Bytes} (h : CleanName name) :
    cleanFilename (maxFilename + 1) name = name := by
  have hbare : bareChars name = name := by
    unfold bareChars
    have hstring : name.takeWhile (· != 0) = name :=
      cString_eq_self (fun c hc => (h.chars c hc).notNul)
    rw [hstring, List.filter_eq_self]
    intro c hc
    simp [(h.chars c hc).notSep]
  have hmap : name.map cleanChar = name := by
    calc name.map cleanChar = name.map id :=
          List.map_congr_left (fun c hc => (h.chars c hc).cleanChar_eq)
      _ = name := List.map_id _
  have hloop : cleanLoop maxFilename name = name := by
    rw [cleanLoop_eq, hbare, List.take_of_length_le h.length_le, hmap]
  simp only [cleanFilename, Nat.add_sub_cancel, hloop]
  rw [if_neg (fun hc => h.nonempty hc.1)]

/-- The name the sender computes, whichever way it is written. -/
theorem outFilename_eq (filepath : Bytes) :
    outFilename filepath = cleanFilename (maxFilename + 1) (baseName filepath) :=
  (cleanFilename_clean (baseName filepath)).boundedCopy_eq (Nat.lt_succ_self _)

theorem outFilename_clean (filepath : Bytes) : CleanName (outFilename filepath) := by
  rw [outFilename_eq]
  exact cleanFilename_clean _

theorem SourceFile.name_eq (f : SourceFile) : f.name = outFilename f.path :=
  (outFilename_eq f.path).symm

/-! ## §3. The wire. -/

theorem metadata_fits (senderPath : Option Bytes) (fileSize : UInt64) (filename : Bytes) :
    (metadata senderPath fileSize filename).Fits where
  filename := nulField_length _ _
  senderPath := by cases senderPath <;> exact nulField_length _ _
  fileSize := fileSize.toNat_lt

/-- A cleaned path survives its copy. -/
theorem cleanPath_boundedCopy (cap : Nat) (input : Bytes) :
    boundedCopy cap (cleanPath cap input) = cleanPath cap input := by
  have hcut : cleanPath cap input <+: (spelled (components (cString input))).take (cap - 1) := by
    rw [cleanPath_eq]
    exact List.rdropWhile_prefix _ _
  have hlen : (cleanPath cap input).length ≤ cap - 1 :=
    Nat.le_trans hcut.length_le (List.length_take_le _ _)
  -- what is written is a separator or a safe character, so the copy runs to the end
  have hnul : ∀ c ∈ cleanPath cap input, c ≠ 0 := by
    rintro c hc rfl
    rcases spelled_chars _ 0 (List.mem_of_mem_take (hcut.subset hc)) with h | h
    · cases h
    · cases h
  rw [boundedCopy, cString_eq_self hnul, List.take_of_length_le hlen]

/-- What a session announces is what `send_metadata` fills in. -/
theorem SourceFile.announced_eq (f : SourceFile) (senderPath : Option Bytes) {content : Bytes}
    (h : f.readable = some content) :
    f.announced senderPath
      = metadata (some (if senderPath.getD [] ≠ [] then senderPath.getD [] else f.path))
          (UInt64.ofNat content.length) (outFilename f.path) := by
  obtain ⟨hcontent, hlt⟩ := SourceFile.readable_spec h
  have hsize : (UInt64.ofNat content.length).toNat = content.length :=
    UInt64.toNat_ofNat_of_lt' (show content.length < 2 ^ 64 by omega)
  have hname := (outFilename_clean f.path).boundedCopy_eq (Nat.lt_succ_self maxFilename)
  simp only [SourceFile.announced, metadata, cleanPath_boundedCopy, hname, f.name_eq, hcontent,
    Option.getD_some, hsize]

/-- The field of a clean name ends the receiver's walk. -/
theorem receivesName_iff {bigEndian : Bool} {stack : Memory UInt8} {senderPath : Option Bytes}
    {fileSize : UInt64} {name : Bytes} (h : CleanName name) (found : Bytes) :
    ReceivesName (metaImage bigEndian stack
        (deserializeMeta (serializeMeta (metadata senderPath fileSize name)))) found
      ↔ found = name := by
  have hfits := metadata_fits senderPath fileSize name
  have hlen := serializeMeta_length hfits
  have hfield : (deserializeMeta (serializeMeta (metadata senderPath fileSize name))).filename
      = nulField maxFilename name := by
    rw [deserialize_serializeMeta hfits]
    show nulField maxFilename (boundedCopy (maxFilename + 1) name) = _
    rw [h.boundedCopy_eq (Nat.lt_succ_self _)]
  have hends : ((cleanScanner (maxFilename + 1)).onField []
      (deserializeMeta (serializeMeta (metadata senderPath fileSize name))).filename).isSome
        = true := by
    apply (cleanScanner_ends (deserializeMeta_filename_length hlen)).mpr
    apply Or.inl
    -- the name is shorter than its field: the padding ends the walk
    have hshort := h.length_le
    rw [hfield, nulField, List.mem_append, List.mem_replicate, List.length_take]
    exact Or.inr ⟨by omega, rfl⟩
  have hname : ReceivesName (metaImage bigEndian stack
      (deserializeMeta (serializeMeta (metadata senderPath fileSize name)))) _ :=
    receivesName_of_ends hlen hends []
  rw [hfield, cleanFilename_field h] at hname
  constructor
  · -- one walk, one name
    rintro ⟨out, hout, rfl⟩
    obtain ⟨out', hout', heq⟩ := hname
    rw [heq, hout.unique hout']
  · rintro rfl
    exact hname

/-! ## §4. The target. -/

/-- The validator's path, where it fits its buffer, is the one that is opened. -/
theorem constructTargetPath_eq {sep : UInt8} {dir name target : Bytes} (h : CleanName name)
    (htarget : constructTargetPath sep (maxPath * 2 + 8) dir name = .ok target) :
    target = fullOutputPath sep dir name := by
  simp only [constructTargetPath, h.cleanFilename_eq] at htarget
  split at htarget
  · cases htarget
  · rename_i hshort
    have hlt : (joinedPath sep dir name).length < maxPath * 2 + 8 := by omega
    obtain rfl := Except.ok.inj htarget
    -- what fits the validator's buffer fits the one that is opened
    have hcap : maxPath * 2 + 8 ≤ 512 := by decide
    show (joinedPath sep dir name).take (maxPath * 2 + 8 - 1) = _
    rw [List.take_of_length_le (by omega)]
    unfold fullOutputPath
    by_cases hdir : dir = []
    · -- no directory: the name is copied
      rw [if_neg (not_not.mpr hdir), h.boundedCopy_eq (by decide)]
      unfold joinedPath
      rw [if_neg (not_not.mpr hdir)]
    · rw [if_pos hdir]
      show _ = (joinedPath sep dir name).take (512 - 1)
      rw [List.take_of_length_le (by omega)]

/-- The path a session opens is `full_output_path` of the name it computed. -/
theorem RecvState.incomingFile_path (env : RecvEnv) (s : RecvState) (payload : Bytes) :
    (s.incomingFile env payload).path
      = fullOutputPath env.pathSep s.outputDirectory (s.incomingFile env payload).name := by
  have hclean : CleanName (s.incomingFile env payload).name := cleanFilename_clean _
  unfold fullOutputPath
  by_cases hdir : s.outputDirectory = []
  · rw [if_neg (not_not.mpr hdir), hclean.boundedCopy_eq (by decide)]
    show (if s.outputDirectory ≠ [] then _ else (s.incomingFile env payload).name).take (512 - 1) = _
    have hlen := hclean.length_le
    simp only [maxFilename] at hlen
    rw [if_neg (not_not.mpr hdir), List.take_of_length_le (by omega)]
  · rw [if_pos hdir]
    rfl

/-- The path it shows to the validator is `val_construct_target_path` of it. -/
theorem RecvState.targetPath_constructed (env : RecvEnv) (s : RecvState) {f : RecvFile}
    (h : CleanName f.name) :
    constructTargetPath env.pathSep (maxPath * 2 + 8) s.outputDirectory f.name
      = if (s.targetPath env f).length ≥ maxPath * 2 + 8 then .error .invalidArg
        else .ok (s.targetPath env f) := by
  have hjoined : joinedPath env.pathSep s.outputDirectory f.name = s.targetPath env f := rfl
  simp only [constructTargetPath, h.cleanFilename_eq, hjoined]
  split
  · rfl
  · have hjoin : joinPath env.pathSep (maxPath * 2 + 8) s.outputDirectory f.name
        = (s.targetPath env f).take (maxPath * 2 + 8 - 1) := rfl
    rw [hjoin, List.take_of_length_le (by omega)]

/-- **One name for a file**: the receiver computes the name the sender computed
and reports, in every memory the metadata lands in; such a name is clean, and
cleaning or copying it again changes nothing; and where the validator is shown a
path it is the one that is opened. -/
theorem filename_agreement (filepath : Bytes) (senderPath : Option Bytes) (fileSize : UInt64) :
    (∀ bigEndian stack found, ReceivesName (metaImage bigEndian stack (deserializeMeta
        (serializeMeta (metadata senderPath fileSize (outFilename filepath))))) found
      ↔ found = outFilename filepath)
    ∧ deserializeMeta (serializeMeta (metadata senderPath fileSize (outFilename filepath)))
        = metadata senderPath fileSize (outFilename filepath)
    ∧ outFilename filepath = cleanFilename (maxFilename + 1) (baseName filepath)
    ∧ ∀ input,
        CleanName (cleanFilename (maxFilename + 1) input)
        ∧ cleanFilename (maxFilename + 1) (cleanFilename (maxFilename + 1) input)
          = cleanFilename (maxFilename + 1) input
        ∧ boundedCopy (maxFilename + 1) (cleanFilename (maxFilename + 1) input)
          = cleanFilename (maxFilename + 1) input
        ∧ ∀ sep dir target,
            constructTargetPath sep (maxPath * 2 + 8) dir (cleanFilename (maxFilename + 1) input)
              = .ok target →
            target = fullOutputPath sep dir (cleanFilename (maxFilename + 1) input) := by
  refine ⟨?_, deserialize_serializeMeta (metadata_fits _ _ _), outFilename_eq filepath, ?_⟩
  · intro bigEndian stack found
    exact receivesName_iff (outFilename_clean filepath) found
  · intro input
    have hclean := cleanFilename_clean input
    refine ⟨hclean, hclean.cleanFilename_eq, hclean.boundedCopy_eq (Nat.lt_succ_self _), ?_⟩
    intro sep dir target htarget
    exact constructTargetPath_eq hclean htarget

end ValProtocol
