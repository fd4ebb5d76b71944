/-
  ValProtocol.Files.CleanPath
  ───────────────────────────
  `val_clean_path` (`src/val_core.c` lines 256-315) against what it is for:
  a path from which the components made only of dots are gone.

  The scanner looks for a run of dots at every dot, not only where a
  component begins, and the room can run out anywhere.  So a component loses
  its trailing dots together with the separator behind it, and one that
  begins with dots can be cut right behind them.

    • `cleanPath_eq`               — the output in terms of the components,
    • `cleanPath_safe_iff`         — the output is a safe path unless the room
      runs out among the dots a component begins with,
    • `cleanPath_eq_reference_iff` — it is the cleaned path, component by
      component, unless a component that stays ends in a dot.
-/
import Mathlib.Data.List.Chain
import ValProtocol.Lib.Splitting
import ValProtocol.Files.Names

namespace ValProtocol

open Splitting

/-! ## §1. Components. -/

def isDot (c : UInt8) : Bool := c == 0x2E

/-- The characters in front of the NUL. -/
def cString (input : Bytes) : Bytes := input.takeWhile (· != 0)

/-- The components of a path, empty ones included. -/
def components (path : Bytes) : List Bytes := path.splitOnP isPathSep

/-- A component that is more than dots. -/
def isKept (c : Bytes) : Bool := !c.all isDot

/-- A component without the dots it ends in. -/
def stripDots (c : Bytes) : Bytes := c.rdropWhile isDot

/-- Its separator is copied: the component ends in a character that is no dot. -/
def closes (c : Bytes) : Bool := c.getLast?.any (fun d => !isDot d)

/-- What a component becomes, -/
def body (c : Bytes) : Bytes := (stripDots c).map cleanChar

/-- with the separator behind it. -/
def written (c : Bytes) : Bytes := body c ++ if closes c then [0x2F] else []

/-- What a path becomes where there is room for all of it. -/
def spelled : List Bytes → Bytes
  | [] => []
  | [c] => body c
  | c :: cs => written c ++ spelled cs

theorem isDot_iff {c : UInt8} : isDot c = true ↔ c = 0x2E := by simp [isDot]

theorem isPathSep_of_isDot {c : UInt8} (h : isDot c = true) : isPathSep c = false := by
  rw [isDot_iff] at h
  subst h
  rfl

theorem spelled_cons {c d : Bytes} {ds : List Bytes} :
    spelled (c :: d :: ds) = written c ++ spelled (d :: ds) := rfl

theorem stripDots_cons (x : UInt8) (c : Bytes) :
    stripDots (x :: c) = if stripDots c = [] then (if isDot x then [] else [x])
      else x :: stripDots c := by
  have h := rdropWhile_append isDot [x] c
  rw [List.rdropWhile_singleton] at h
  exact h

theorem stripDots_eq_nil {c : Bytes} : stripDots c = [] ↔ isKept c = false := by
  unfold stripDots isKept
  rw [List.rdropWhile_eq_nil_iff, Bool.not_eq_false', List.all_eq_true]

@[simp] theorem closes_nil : closes [] = false := rfl

@[simp] theorem closes_singleton (x : UInt8) : closes [x] = !isDot x := rfl

theorem closes_cons {c : Bytes} (x : UInt8) (h : c ≠ []) : closes (x :: c) = closes c := by
  obtain ⟨y, c, rfl⟩ := List.exists_cons_of_ne_nil h
  unfold closes
  rw [List.getLast?_cons_cons]

/-- Dots alone become nothing. -/
theorem written_eq_nil {c : Bytes} (h : isKept c = false) : written c = [] := by
  have hstrip := stripDots_eq_nil.mpr h
  have hlast : closes c = false := by
    unfold closes
    cases hc : c.getLast? with
    | none => rfl
    | some d =>
        have hall : c.all isDot = true := by simpa [isKept] using h
        have := List.all_eq_true.mp hall d (List.mem_of_getLast? hc)
        simp [this]
  simp [written, body, hstrip, hlast]

theorem spelled_drop {c : Bytes} (cs : List Bytes) (h : isKept c = false) :
    spelled (c :: cs) = spelled cs := by
  cases cs with
  | nil => simp [spelled, body, stripDots_eq_nil.mpr h]
  | cons d ds => rw [spelled_cons, written_eq_nil h, List.nil_append]

/-! ## §2. The scanner without the room. -/

/-- Nothing but dots up to the next separator or the end. -/
def dotsToEnd (s : Bytes) : Bool := (s.dropWhile isDot).head?.all isPathSep

/-- The main loop, a character at a time: a run of dots that ends a component is
passed over dot by dot. -/
def spell : Bool → Bytes → Bytes
  | _, [] => []
  | prevSep, c :: cs =>
      if isPathSep c then
        if prevSep then spell true cs else 0x2F :: spell true cs
      else if isDot c ∧ dotsToEnd cs then spell true cs
      else cleanChar c :: spell false cs

theorem spell_cons (prevSep : Bool) (c : UInt8) (cs : Bytes) :
    spell prevSep (c :: cs) = if isPathSep c then
        if prevSep then spell true cs else 0x2F :: spell true cs
      else if isDot c ∧ dotsToEnd cs then spell true cs
      else cleanChar c :: spell false cs := rfl

theorem spell_dots {s : Bytes} (h : dotsToEnd s = true) :
    spell true s = spell true (s.dropWhile isDot) := by
  induction s with
  | nil => rfl
  | cons c cs ih =>
      by_cases hc : isDot c = true
      · have htail : dotsToEnd cs = true := by simpa [dotsToEnd, hc] using h
        rw [List.dropWhile_cons_of_pos hc, ← ih htail]
        simp [spell_cons, isPathSep_of_isDot hc, hc, htail]
      · rw [List.dropWhile_cons_of_neg hc]

theorem cString_dropWhile (s : Bytes) :
    (cString s).dropWhile isDot = cString (s.dropWhile isDot) := by
  induction s with
  | nil => rfl
  | cons c cs ih =>
      by_cases hc : isDot c = true
      · have hnul : c ≠ 0 := by
          rw [isDot_iff] at hc
          subst hc
          decide
        have hcons : cString (c :: cs) = c :: cString cs := by simp [cString, hnul]
        rw [hcons, List.dropWhile_cons_of_pos hc, List.dropWhile_cons_of_pos hc, ih]
      · rw [List.dropWhile_cons_of_neg hc]
        by_cases hnul : c = 0
        · simp [cString, hnul]
        · have hcons : cString (c :: cs) = c :: cString cs := by simp [cString, hnul]
          rw [hcons, List.dropWhile_cons_of_neg hc]

/-- The look ahead stops at the NUL as well. -/
theorem lookahead_eq (s : Bytes) :
    (match s.dropWhile isDot with
      | [] => true
      | q :: _ => isPathSep q || q == 0) = dotsToEnd (cString s) := by
  unfold dotsToEnd
  rw [cString_dropWhile]
  cases s.dropWhile isDot with
  | nil => rfl
  | cons q rest =>
      by_cases hq : q = 0
      · simp [cString, hq]
      · simp [cString, hq]

/-- **The room only cuts**: the loop writes what it would write anyway, as far
as there is room. -/
theorem cleanPathLoop_eq : ∀ (fuel room : Nat) (prevSep : Bool) (s : Bytes), s.length ≤ fuel →
    cleanPathLoop fuel room prevSep s = (spell prevSep (cString s)).take room := by
  intro fuel
  induction fuel with
  | zero =>
      intro room prevSep s hs
      obtain rfl : s = [] := List.length_eq_zero_iff.mp (by omega)
      simp [cleanPathLoop, cString, spell]
  | succ fuel ih =>
      intro room prevSep s hs
      cases s with
      | nil => simp [cleanPathLoop, cString, spell]
      | cons c cs =>
          rw [List.length_cons] at hs
          unfold cleanPathLoop
          -- the NUL, or no room left
          by_cases hstop : c = 0 ∨ room = 0
          · rw [if_pos hstop]
            rcases hstop with rfl | rfl
            · simp [cString, spell]
            · simp
          · rw [if_neg hstop]
            obtain ⟨hnul, hroom⟩ := not_or.mp hstop
            obtain ⟨room, rfl⟩ : ∃ r, room = r + 1 := ⟨room - 1, by omega⟩
            have hcons : cString (c :: cs) = c :: cString cs := by simp [cString, hnul]
            have hlen : (cs.dropWhile isDot).length ≤ cs.length :=
              (List.dropWhile_suffix isDot).length_le
            change (if isPathSep c then
                if prevSep then cleanPathLoop fuel (room + 1) true cs
                else 0x2F :: cleanPathLoop fuel room true cs
              else if c = 0x2E ∧ (match cs.dropWhile isDot with
                | [] => true
                | q :: _ => isPathSep q || q == 0) = true
              then cleanPathLoop fuel (room + 1) true (cs.dropWhile isDot)
              else cleanChar c :: cleanPathLoop fuel room false cs) = _
            -- both scanners look ahead to the same place, and go on from there
            rw [lookahead_eq, hcons, ih _ _ _ (by omega), ih _ _ _ (by omega),
              ih _ _ _ (by omega), ih _ _ _ (by omega), ← cString_dropWhile, spell_cons]
            simp only [isDot_iff]
            split
            · split
              · rfl
              · rfl
            · split
              · rename_i hdots
                rw [spell_dots hdots.2]
              · rfl

/-! ## §3. The scanner by components. -/

theorem dotsToEnd_append {a b : Bytes} (ha : ∀ x ∈ a, isPathSep x = false)
    (hb : b.head?.all isPathSep = true) : dotsToEnd (a ++ b) = a.all isDot := by
  induction a with
  | nil =>
      show dotsToEnd b = true
      cases b with
      | nil => rfl
      | cons x rest =>
          have hx : isPathSep x = true := by simpa using hb
          have hdot : ¬ isDot x = true := by
            intro hd
            rw [isPathSep_of_isDot hd] at hx
            cases hx
          rw [dotsToEnd, List.dropWhile_cons_of_neg hdot]
          exact hb
  | cons y a ih =>
      by_cases hy : isDot y = true
      · have htail := ih (fun x hx => ha x (List.mem_cons_of_mem _ hx))
        simpa [dotsToEnd, hy] using htail
      · have hsep := ha y (List.mem_cons_self ..)
        simp [dotsToEnd, hy, hsep]

/-- The look ahead from a component's start. -/
theorem dotsToEnd_eq {s c : Bytes} {cs : List Bytes} (h : components s = c :: cs) :
    dotsToEnd s = !isKept c := by
  rw [isKept, Bool.not_not]
  rcases splitOnP_cases isPathSep s with ⟨hno, hone⟩ | ⟨a, x, rest, hs, ha, hx, hcons⟩
  · obtain ⟨rfl, -⟩ := List.cons.inj (hone.symm.trans h)
    have := dotsToEnd_append (b := []) hno rfl
    rwa [List.append_nil] at this
  · obtain ⟨rfl, -⟩ := List.cons.inj (hcons.symm.trans h)
    rw [hs]
    exact dotsToEnd_append ha (by simpa using hx)

/-- A path begins with a separator when its first component is empty and not the
last. -/
theorem startsSep_eq {s c : Bytes} {cs : List Bytes} (h : components s = c :: cs) :
    s.head?.any isPathSep = (c.isEmpty && !cs.isEmpty) := by
  rcases splitOnP_cases isPathSep s with ⟨hno, hone⟩ | ⟨a, x, rest, hs, ha, hx, hcons⟩
  · obtain ⟨rfl, rfl⟩ := List.cons.inj (hone.symm.trans h)
    cases s with
    | nil => rfl
    | cons x s => simpa using hno x (List.mem_cons_self ..)
  · obtain ⟨rfl, rfl⟩ := List.cons.inj (hcons.symm.trans h)
    have hne : (rest.splitOnP isPathSep).isEmpty = false := by
      simp [List.splitOnP_ne_nil]
    rw [hs, hne]
    cases a with
    | nil => simpa using hx
    | cons y a => simpa using ha y (List.mem_cons_self ..)

/-- A character in front of a component it is written with. -/
theorem stripDots_cons_isKept {x : UInt8} {c : Bytes} (h : isKept (x :: c) = true) :
    stripDots (x :: c) = x :: stripDots c := by
  rw [stripDots_cons]
  by_cases hc : stripDots c = []
  · have hx : isDot x = false := by
      rw [stripDots_eq_nil] at hc
      simp only [isKept, Bool.not_eq_false'] at hc
      simpa [isKept, hc] using h
    simp [hc, hx]
  · rw [if_neg hc]

theorem spelled_cons_char {x : UInt8} {c : Bytes} {cs : List Bytes} (h : isKept (x :: c) = true) :
    spelled ((x :: c) :: cs)
      = cleanChar x :: ((if c.isEmpty && !cs.isEmpty then [0x2F] else []) ++ spelled (c :: cs)) := by
  have hstrip := stripDots_cons_isKept h
  cases cs with
  | nil => simp [spelled, body, hstrip]
  | cons d ds =>
      rw [spelled_cons, spelled_cons]
      unfold written body
      rw [hstrip]
      by_cases hc : c = []
      · -- the separator stands right behind the character
        subst hc
        have hx : closes [x] = true := by simpa [isKept] using h
        simp [hx, stripDots]
      · simp [hc, closes_cons x hc]

/-- **Component by component**: the scanner spells the components, and a
separator in front of them that it has not passed over. -/
theorem spell_eq (prevSep : Bool) (s : Bytes) :
    spell prevSep s = (if !prevSep && s.head?.any isPathSep then [0x2F] else [])
      ++ spelled (components s) := by
  induction s generalizing prevSep with
  | nil => cases prevSep <;> rfl
  | cons c cs ih =>
      obtain ⟨first, others, hcs⟩ : ∃ first others, components cs = first :: others :=
        exists_splitOnP_eq isPathSep cs
      rw [spell_cons]
      by_cases hsep : isPathSep c = true
      · -- an empty component is over
        have hcomp : components (c :: cs) = [] :: first :: others := by
          rw [← hcs]
          exact splitOnP_cons_pos hsep
        have hspell : spell true cs = spelled (first :: others) := by
          rw [ih true, ← hcs]
          rfl
        rw [if_pos hsep, hcomp, spelled_cons, written_eq_nil rfl, hspell]
        cases prevSep with
        | true => rfl
        | false => simp [hsep]
      · rw [Bool.not_eq_true] at hsep
        have hcomp : components (c :: cs) = (c :: first) :: others := splitOnP_cons_neg hsep hcs
        have hstart : (!prevSep && (c :: cs).head?.any isPathSep) = false := by simp [hsep]
        rw [if_neg (by simp [hsep]), hstart, hcomp, dotsToEnd_eq hcs]
        by_cases hdots : isDot c = true ∧ isKept first = false
        · -- the component ends in dots from here on
          have hboth : isKept (c :: first) = false := by
            simpa [isKept, hdots.1] using hdots.2
          rw [if_pos (by simpa using hdots), ih true, hcs, spelled_drop others hdots.2,
            spelled_drop others hboth]
          rfl
        · have hkept : isKept (c :: first) = true := by
            by_contra hk
            apply hdots
            simpa [isKept] using hk
          rw [if_neg (by simpa using hdots), ih false, startsSep_eq hcs, spelled_cons_char hkept, ← hcs]
          rfl

/-- **What `val_clean_path` computes**: the components are spelled as far as
there is room, and trailing separators go. -/
theorem cleanPath_eq (cap : Nat) (input : Bytes) :
    cleanPath cap input
      = ((spelled (components (cString input))).take (cap - 1)).rdropWhile (· == 0x2F) := by
  have hspell : spell true (cString input) = spelled (components (cString input)) :=
    spell_eq true (cString input)
  unfold cleanPath
  rw [cleanPathLoop_eq _ _ _ _ (Nat.le_refl _), hspell]
  rfl

/-! ## §4. Safe paths. -/

/-- **A safe path** of at most `room` characters. -/
structure SafePath (room : Nat) (out : Bytes) : Prop where
  fits : out.length ≤ room
  chars : ∀ c ∈ out, isSafeChar c = true ∨ c = 0x2F
  leading : out.head? ≠ some 0x2F
  trailing : out.getLast? ≠ some 0x2F
  single : out.IsChain (fun a b => ¬ (a = 0x2F ∧ b = 0x2F))
  noDots : ∀ c ∈ components out, c ≠ [] → c.all isDot = false

/-! ### The text that is cut. -/

theorem body_chars (c : Bytes) : ∀ x ∈ body c, CleanChar x := by
  intro x hx
  obtain ⟨y, -, rfl⟩ := List.mem_map.mp hx
  exact cleanChar_clean y

theorem body_notSep (c : Bytes) : ∀ x ∈ body c, isPathSep x = false := fun x hx =>
  (body_chars c x hx).notSep

theorem isDot_cleanChar (x : UInt8) : isDot (cleanChar x) = isDot x := by
  rw [Bool.eq_iff_iff, isDot_iff, isDot_iff, cleanChar_eq_dot]

/-- A component that stays ends in more than a dot. -/
theorem body_notDots {c : Bytes} (h : isKept c = true) : (body c).all isDot = false := by
  by_contra hall
  rw [Bool.not_eq_false] at hall
  have hstrip : (stripDots c).all isDot = true := by
    simpa [body, Function.comp_def, isDot_cleanChar] using hall
  have hnil : stripDots (stripDots c) = [] := by
    apply stripDots_eq_nil.mpr
    simp [isKept, hstrip]
  have hself : stripDots (stripDots c) = stripDots c := List.rdropWhile_idempotent _ _
  rw [hself, stripDots_eq_nil] at hnil
  rw [hnil] at h
  cases h

theorem body_ne_nil {c : Bytes} (h : isKept c = true) : body c ≠ [] := by
  intro hnil
  have := body_notDots h
  rw [hnil] at this
  cases this

/-- A text grows from its end, by a component that stays, with a separator
behind it or without one. -/
theorem spelled_induction {P : Bytes → Prop} (nil : P [])
    (joined : ∀ c t, isKept c = true → P t → P (body c ++ t))
    (closed : ∀ c t, isKept c = true → P t → P (body c ++ 0x2F :: t)) (path : List Bytes) :
    P (spelled path) := by
  induction path with
  | nil => exact nil
  | cons c cs ih =>
      by_cases hk : isKept c = true
      · cases cs with
        | nil =>
            show P (body c)
            rw [← List.append_nil (body c)]
            exact joined c [] hk nil
        | cons d ds =>
            rw [spelled_cons, written]
            by_cases hc : closes c = true
            · rw [if_pos hc, List.append_assoc]
              exact closed c _ hk ih
            · rw [if_neg hc, List.append_nil]
              exact joined c _ hk ih
      · rw [spelled_drop cs (by simpa using hk)]
        exact ih

theorem spelled_chars (path : List Bytes) :
    ∀ x ∈ spelled path, isSafeChar x = true ∨ x = 0x2F := by
  apply spelled_induction (P := fun t => ∀ x ∈ t, isSafeChar x = true ∨ x = 0x2F)
  · simp
  · intro c t _ ht x hx
    rcases List.mem_append.mp hx with hx | hx
    · exact Or.inl (body_chars c x hx).safe
    · exact ht x hx
  · intro c t _ ht x hx
    rcases List.mem_append.mp hx with hx | hx
    · exact Or.inl (body_chars c x hx).safe
    · rcases List.mem_cons.mp hx with rfl | hx
      · exact Or.inr rfl
      · exact ht x hx

theorem head_body_append {c : Bytes} (h : isKept c = true) (t : Bytes) :
    (body c ++ t).head? ≠ some 0x2F := by
  obtain ⟨x, xs, hx⟩ := List.exists_cons_of_ne_nil (body_ne_nil h)
  have hsep := body_notSep c x (by rw [hx]; exact List.mem_cons_self ..)
  rw [hx, List.cons_append, List.head?_cons]
  rintro ⟨rfl⟩
  cases hsep

theorem spelled_leading (path : List Bytes) : (spelled path).head? ≠ some 0x2F := by
  apply spelled_induction (P := fun t => t.head? ≠ some 0x2F)
  · simp
  · intro c t hk _
    exact head_body_append hk t
  · intro c t hk _
    exact head_body_append hk _

/-- No two separators in a row. -/
abbrev Single (t : Bytes) : Prop := t.IsChain (fun a b => ¬ (a = 0x2F ∧ b = 0x2F))

theorem single_body_append (c : Bytes) {t : Bytes} (h : Single t) : Single (body c ++ t) := by
  have hsep := body_notSep c
  generalize body c = b at hsep
  induction b with
  | nil => exact h
  | cons x b ih =>
      have hx := hsep x (List.mem_cons_self ..)
      apply (ih (fun y hy => hsep y (List.mem_cons_of_mem _ hy))).cons
      rintro y - ⟨rfl, -⟩
      cases hx

theorem spelled_single (path : List Bytes) : Single (spelled path) := by
  -- a separator doubles only in front of another, so the text's start is carried along
  suffices h : Single (spelled path) ∧ (spelled path).head? ≠ some 0x2F from h.1
  apply spelled_induction (P := fun t => Single t ∧ t.head? ≠ some 0x2F)
  · simp
  · intro c t hk ht
    exact ⟨single_body_append c ht.1, head_body_append hk t⟩
  · intro c t hk ht
    refine ⟨single_body_append c ?_, head_body_append hk _⟩
    apply ht.1.cons
    rintro y hy ⟨-, rfl⟩
    exact ht.2 hy

theorem components_body_append (c t : Bytes) {d : Bytes} {ds : List Bytes}
    (h : components t = d :: ds) : components (body c ++ t) = (body c ++ d) :: ds :=
  splitOnP_append_left (body_notSep c) h

theorem spelled_noDots (path : List Bytes) :
    ∀ c ∈ components (spelled path), c ≠ [] → c.all isDot = false := by
  apply spelled_induction (P := fun t =>
    ∀ c ∈ components t, c ≠ [] → c.all isDot = false)
  · intro c hc hne
    exact absurd (List.mem_singleton.mp hc) hne
  · -- joined to what follows it still has more than dots
    intro c t hk ht e he hne
    obtain ⟨d, ds, hd⟩ : ∃ d ds, components t = d :: ds := exists_splitOnP_eq isPathSep t
    rw [components_body_append c t hd] at he
    rcases List.mem_cons.mp he with rfl | he
    · rw [List.all_append, body_notDots hk, Bool.false_and]
    · exact ht e (by rw [hd]; exact List.mem_cons_of_mem _ he) hne
  · -- with its separator the component stands alone
    intro c t hk ht e he hne
    have hcomp : components (body c ++ 0x2F :: t) = body c :: components t :=
      List.splitOnP_append_cons_of_forall_mem (body_notSep c) 0x2F rfl t
    rw [hcomp] at he
    rcases List.mem_cons.mp he with rfl | he
    · exact body_notDots hk
    · exact ht e he hne

/-! ### The cut. -/

/-- The room runs out right behind dots a component begins with. -/
def CutText (room : Nat) (t : Bytes) : Prop :=
  ∃ pre dots rest, t = pre ++ dots ++ rest ∧ (pre ++ dots).length = room
    ∧ pre.getLast?.all isPathSep = true ∧ dots ≠ [] ∧ dots.all isDot = true

section Cut

variable {t : Bytes} {room : Nat}

/-- A component of dots in the output comes from a cut, where the text itself has
none. -/
theorem cutText_of_dots (hdots : ∀ c ∈ components t, c ≠ [] → c.all isDot = false) {c : Bytes}
    (hc : c ∈ components ((t.take room).rdropWhile (· == 0x2F))) (hne : c ≠ [])
    (hall : c.all isDot = true) : CutText room t := by
  obtain ⟨hno, pre, post, hout, hpre, hpost⟩ := mem_splitOnP_iff.mp hc
  obtain ⟨slashes, htake, hslash⟩ : ∃ slashes, t.take room = pre ++ c ++ post ++ slashes
      ∧ slashes.head?.all isPathSep = true := by
    refine ⟨(t.take room).rtakeWhile (· == 0x2F), ?_, ?_⟩
    · rw [← hout, List.rdropWhile_append_rtakeWhile]
    · cases hs : (t.take room).rtakeWhile (· == 0x2F) with
      | nil => rfl
      | cons x xs =>
          have hmem : x ∈ (t.take room).rtakeWhile (· == 0x2F) := by
            rw [hs]
            exact List.mem_cons_self ..
          have hx : x = 0x2F := by simpa using List.mem_rtakeWhile_imp hmem
          subst hx
          rfl
  have htext : t = pre ++ c ++ (post ++ slashes ++ t.drop room) := by
    calc t = t.take room ++ t.drop room := (List.take_append_drop room t).symm
      _ = pre ++ c ++ (post ++ slashes ++ t.drop room) := by
        rw [htake]
        simp only [List.append_assoc]
  -- what follows the dots in the text is no separator
  have hfollow : ¬ (post ++ slashes ++ t.drop room).head?.all isPathSep = true := by
    intro hsep
    have := hdots c (mem_splitOnP_iff.mpr ⟨hno, pre, _, htext, hpre, hsep⟩) hne
    rw [hall] at this
    cases this
  cases post with
  | cons x post => exact absurd (by simpa using hpost) hfollow
  | nil =>
      cases slashes with
      | cons x slashes => exact absurd (by simpa using hslash) hfollow
      | nil =>
          have hlt : room < t.length := by
            by_contra hle
            apply hfollow
            rw [List.drop_eq_nil_of_le (by omega)]
            rfl
          refine ⟨pre, c, t.drop room, htext, ?_, hpre, hne, hall⟩
          rw [List.append_nil, List.append_nil] at htake
          rw [← htake, List.length_take]
          omega

/-- And a cut leaves one behind. -/
theorem dots_of_cutText (h : CutText room t) :
    ∃ c ∈ components ((t.take room).rdropWhile (· == 0x2F)), c ≠ [] ∧ c.all isDot = true := by
  obtain ⟨pre, dots, rest, rfl, rfl, hpre, hne, hall⟩ := h
  have hlast : ∀ x ∈ dots, x = 0x2E := by
    intro x hx
    exact isDot_iff.mp (List.all_eq_true.mp hall x hx)
  -- the text ends in a dot, so nothing is trimmed
  have hout : ((pre ++ dots ++ rest).take (pre ++ dots).length).rdropWhile (· == 0x2F)
      = pre ++ dots := by
    rw [List.take_left]
    apply rdropWhile_eq_self
    have hdot := hlast _ (List.getLast_mem hne)
    rw [List.getLast?_append, List.getLast?_eq_some_getLast hne, hdot]
    rfl
  rw [hout]
  refine ⟨dots, mem_splitOnP_iff.mpr ⟨?_, pre, [], by simp, hpre, rfl⟩, hne, hall⟩
  intro x hx
  rw [hlast x hx]
  rfl

/-- **The output is safe** unless the room runs out behind leading dots. -/
theorem safePath_take_iff (path : List Bytes) (room : Nat) :
    SafePath room (((spelled path).take room).rdropWhile (· == 0x2F))
      ↔ ¬ CutText room (spelled path) := by
  constructor
  · intro h hcut
    obtain ⟨c, hc, hne, hall⟩ := dots_of_cutText hcut
    rw [h.noDots c hc hne] at hall
    cases hall
  · intro hcut
    have htrim : ((spelled path).take room).rdropWhile (· == 0x2F) <+: (spelled path).take room :=
      List.rdropWhile_prefix _ _
    have hpre := htrim.trans (List.take_prefix room (spelled path))
    -- what holds of the text holds of a part from its start; only the dots may be new
    refine ⟨?_, ?_, ?_, ?_, ?_, ?_⟩
    · exact Nat.le_trans htrim.length_le (List.length_take_le _ _)
    · exact fun x hx => spelled_chars path x (hpre.subset hx)
    · intro hhead
      apply spelled_leading path
      obtain ⟨rest, hrest⟩ := hpre
      rw [← hrest, List.head?_append, hhead]
      rfl
    · intro hlast
      have hne : ((spelled path).take room).rdropWhile (· == 0x2F) ≠ [] := by
        intro hnil
        rw [hnil] at hlast
        cases hlast
      rw [List.getLast?_eq_some_getLast hne] at hlast
      apply List.rdropWhile_last_not _ _ hne
      rw [Option.some.inj hlast]
      rfl
    · obtain ⟨rest, hrest⟩ := hpre
      have hsingle : Single (spelled path) := spelled_single path
      rw [← hrest] at hsingle
      exact hsingle.left_of_append
    · intro c hc hne
      by_contra hall
      rw [Bool.not_eq_false] at hall
      exact hcut (cutText_of_dots (spelled_noDots path) hc hne hall)

end Cut

/-! ### The cut, by components. -/

/-- The room runs out among the dots a component begins with: the component is
more than dots, what is written in front of it is nothing or ends in a
separator, and the last character there is room for is one of its leading
dots. -/
def CutInDots (room : Nat) (path : List Bytes) : Prop :=
  ∃ before c after, path = before ++ c :: after ∧ isKept c = true
    ∧ (before.flatMap written).getLast?.all isPathSep = true
    ∧ (before.flatMap written).length < room
    ∧ room ≤ (before.flatMap written).length + (c.takeWhile isDot).length

/-- A component that stays keeps its leading dots. -/
theorem body_leading {c : Bytes} (h : isKept c = true) :
    ∃ x rest, body c = c.takeWhile isDot ++ x :: rest ∧ isDot x = false := by
  induction c with
  | nil => cases h
  | cons y c ih =>
      have hstrip : body (y :: c) = cleanChar y :: body c := by
        rw [body, stripDots_cons_isKept h]
        rfl
      -- a leading dot is kept, and the first other character ends the run
      by_cases hy : isDot y = true
      · obtain ⟨x, rest, hx, hdot⟩ := ih (by simpa [isKept, hy] using h)
        refine ⟨x, rest, ?_, hdot⟩
        have hclean : cleanChar y = y := by
          rw [isDot_iff] at hy
          subst hy
          rfl
        rw [hstrip, hx, hclean, List.takeWhile_cons_of_pos hy, List.cons_append]
      · refine ⟨cleanChar y, body c, ?_, by simpa [isDot_cleanChar] using hy⟩
        rw [hstrip, List.takeWhile_cons_of_neg hy, List.nil_append]

theorem exists_spelled_cons (c : Bytes) (cs : List Bytes) :
    ∃ more, spelled (c :: cs) = body c ++ more := by
  cases cs with
  | nil => exact ⟨[], by simp [spelled]⟩
  | cons d ds => exact ⟨_, by rw [spelled_cons, written, List.append_assoc]⟩

/-- What stands in front of a component. -/
theorem spelled_append (before : List Bytes) (c : Bytes) (after : List Bytes) :
    spelled (before ++ c :: after) = before.flatMap written ++ spelled (c :: after) := by
  induction before with
  | nil => rfl
  | cons b before ih =>
      rw [List.flatMap_cons, List.append_assoc, ← ih]
      cases before with
      | nil => rfl
      | cons d ds => rfl

theorem CutInDots.cutText {room : Nat} {path : List Bytes} (h : CutInDots room path) :
    CutText room (spelled path) := by
  obtain ⟨before, c, after, rfl, hk, hlast, hlt, hle⟩ := h
  obtain ⟨x, rest, hbody, -⟩ := body_leading hk
  obtain ⟨more, hmore⟩ := exists_spelled_cons c after
  generalize hpre : before.flatMap written = pre at hlast hlt hle
  generalize hlead : c.takeWhile isDot = lead at hbody hle
  have hall : lead.all isDot = true := by
    rw [← hlead]
    exact List.all_takeWhile
  -- as many of the dots as there is room for
  refine ⟨pre, lead.take (room - pre.length),
    lead.drop (room - pre.length) ++ (x :: rest ++ more), ?_, ?_, hlast, ?_, ?_⟩
  · rw [spelled_append, hpre, hmore, hbody]
    conv_lhs => rw [← List.take_append_drop (room - pre.length) lead]
    simp only [List.append_assoc]
  · rw [List.length_append, List.length_take]
    omega
  · intro hnil
    have := congrArg List.length hnil
    rw [List.length_take, List.length_nil] at this
    omega
  · rw [List.all_eq_true] at hall ⊢
    exact fun y hy => hall y (List.mem_of_mem_take hy)

/-- A separator in what a component becomes is its last character. -/
theorem written_prefix_sep {c pre more : Bytes} (h : written c = pre ++ more)
    (hsep : ∃ x ∈ pre, isPathSep x = true) : more = [] := by
  rcases List.eq_nil_or_concat' more with rfl | ⟨front, z, rfl⟩
  · rfl
  · obtain ⟨x, hx, hxsep⟩ := hsep
    exfalso
    have hmem : x ∈ body c := by
      have hdrop := congrArg List.dropLast h
      rw [← List.append_assoc, List.dropLast_concat] at hdrop
      have hin : x ∈ (written c).dropLast := by
        rw [hdrop]
        exact List.mem_append_left _ hx
      unfold written at hin
      by_cases hc : closes c = true
      · rwa [if_pos hc, List.dropLast_concat] at hin
      · rw [if_neg hc, List.append_nil] at hin
        exact List.mem_of_mem_dropLast hin
    rw [body_notSep c x hmem] at hxsep
    cases hxsep

/-- Dots at the start of a text are leading dots of its first component. -/
theorem dots_le_leading {c dots rest more : Bytes} (hk : isKept c = true)
    (h : body c ++ more = dots ++ rest) (hall : dots.all isDot = true) :
    dots.length ≤ (c.takeWhile isDot).length := by
  obtain ⟨x, tail, hbody, hx⟩ := body_leading hk
  rw [hbody, List.append_assoc] at h
  rcases List.append_eq_append_iff.mp h with ⟨mid, hdots, hrest⟩ | ⟨mid, hlead, -⟩
  · cases mid with
    | nil => simp [hdots]
    | cons y mid =>
        -- the first character behind the leading dots would be a dot
        obtain ⟨rfl, -⟩ := List.cons.inj hrest
        have := List.all_eq_true.mp hall x (by rw [hdots]; simp)
        rw [hx] at this
        cases this
  · rw [hlead, List.length_append]
    omega

/-- Dots behind a separator, or at the start, are leading dots of a component. -/
theorem exists_leading (path : List Bytes) : ∀ {pre dots rest : Bytes},
    spelled path = pre ++ dots ++ rest → pre.getLast?.all isPathSep = true → dots ≠ [] →
    dots.all isDot = true → ∃ before c after, path = before ++ c :: after ∧ isKept c = true
      ∧ pre = before.flatMap written ∧ dots.length ≤ (c.takeWhile isDot).length := by
  induction path with
  | nil =>
      intro pre dots rest h _ hne _
      simp [spelled] at h
      exact absurd h.2.1 hne
  | cons c cs ih =>
      intro pre dots rest h hlast hne hall
      -- a component in front of the one that the rest of the path has
      have hbehind : ∀ pre' : Bytes, pre = written c ++ pre' →
          pre'.getLast?.all isPathSep = true → spelled cs = pre' ++ dots ++ rest →
          ∃ before d after, c :: cs = before ++ d :: after ∧ isKept d = true
            ∧ pre = before.flatMap written ∧ dots.length ≤ (d.takeWhile isDot).length := by
        intro pre' hpre hlast' hcs
        obtain ⟨before, d, after, hpath, hd, hbefore, hlen⟩ := ih hcs hlast' hne hall
        refine ⟨c :: before, d, after, by rw [hpath]; rfl, hd, ?_, hlen⟩
        rw [hpre, hbefore, List.flatMap_cons]
      by_cases hk : isKept c = true
      · rcases List.eq_nil_or_concat' pre with rfl | ⟨front, x, hpre⟩
        · -- nothing in front: the dots are the first that the component has
          obtain ⟨more, hmore⟩ := exists_spelled_cons c cs
          rw [hmore, List.nil_append] at h
          exact ⟨[], c, cs, rfl, hk, rfl, dots_le_leading hk h hall⟩
        · have hx : isPathSep x = true := by
            rw [hpre, List.getLast?_append] at hlast
            simpa using hlast
          have hsep : ∃ y ∈ pre, isPathSep y = true := ⟨x, by rw [hpre]; simp, hx⟩
          cases cs with
          | nil =>
              -- the last component has no separator
              have hmem : x ∈ body c := by
                show x ∈ spelled [c]
                rw [h, hpre]
                simp
              rw [body_notSep c x hmem] at hx
              cases hx
          | cons d ds =>
              rw [spelled_cons, List.append_assoc] at h
              rcases List.append_eq_append_iff.mp h with ⟨pre', hpre', hrest⟩ | ⟨more, hw, hrest⟩
              · refine hbehind pre' hpre' ?_ (by rw [hrest, List.append_assoc])
                cases hpl : pre'.getLast? with
                | none => rfl
                | some y =>
                    rw [hpre', List.getLast?_append, hpl] at hlast
                    exact hlast
              · obtain rfl := written_prefix_sep hw hsep
                rw [List.append_nil] at hw
                exact hbehind [] (by rw [hw, List.append_nil]) rfl (by simpa using hrest.symm)
      · rw [Bool.not_eq_true] at hk
        rw [spelled_drop cs hk] at h
        exact hbehind pre (by rw [written_eq_nil hk, List.nil_append]) hlast h

theorem cutInDots_iff {room : Nat} {path : List Bytes} :
    CutText room (spelled path) ↔ CutInDots room path := by
  constructor
  · rintro ⟨pre, dots, rest, htext, hroom, hlast, hne, hall⟩
    obtain ⟨before, c, after, hpath, hk, rfl, hlen⟩ := exists_leading path htext hlast hne hall
    have hpos := List.length_pos_of_ne_nil hne
    rw [List.length_append] at hroom
    exact ⟨before, c, after, hpath, hk, hlast, by omega, by omega⟩
  · exact CutInDots.cutText

/-- **When `val_clean_path` emits a safe path**: unless its buffer ends among the
dots a component begins with. -/
theorem cleanPath_safe_iff (room : Nat) (input : Bytes) :
    SafePath room (cleanPath (room + 1) input)
      ↔ ¬ CutInDots room (components (cString input)) := by
  rw [cleanPath_eq, Nat.add_sub_cancel, safePath_take_iff, cutInDots_iff]

/-- Three bytes for `..a` leave the directory above. -/
theorem cleanPath_unsafe :
    ¬ ∀ (room : Nat) (input : Bytes), SafePath room (cleanPath (room + 1) input) := by
  intro h
  have hdots := (h 2 [0x2E, 0x2E, 0x61]).noDots [0x2E, 0x2E] (by decide) (by decide)
  revert hdots
  decide

/-! ## §5. The reference. -/

/-- **The purpose**: components that are empty or only dots are dropped, the rest
is cleaned character by character and joined by `/`. -/
def referencePath (input : Bytes) : Bytes :=
  [0x2F].intercalate (((components (cString input)).filter isKept).map (List.map cleanChar))

/-- A bigger buffer holds no more. -/
def Untruncated (cap : Nat) (input : Bytes) : Prop :=
  ∀ cap', cap ≤ cap' → cleanPath cap' input = cleanPath cap input

/-- The components that stay, joined. -/
def joined (path : List Bytes) : Bytes :=
  [0x2F].intercalate ((path.filter isKept).map (List.map cleanChar))

/-- A whole path with its trailing separator gone. -/
def trimmed (path : List Bytes) : Bytes := (spelled path).rdropWhile (· == 0x2F)

theorem joined_drop {c : Bytes} (path : List Bytes) (h : isKept c = false) :
    joined (c :: path) = joined path := by
  simp [joined, h]

theorem joined_cons {c : Bytes} (path : List Bytes) (h : isKept c = true) :
    joined (c :: path) = c.map cleanChar
      ++ if joined path = [] then [] else 0x2F :: joined path := by
  unfold joined
  rw [List.filter_cons_of_pos h, List.map_cons]
  rcases hrest : path.filter isKept with _ | ⟨d, ds⟩
  · simp
  · have hd : isKept d = true := by
      have : d ∈ path.filter isKept := by rw [hrest]; exact List.mem_cons_self ..
      exact (List.mem_filter.mp this).2
    have hne : [0x2F].intercalate (List.map (List.map cleanChar) (d :: ds)) ≠ [] := by
      obtain ⟨x, d, rfl⟩ := List.exists_cons_of_ne_nil (show d ≠ [] by rintro rfl; cases hd)
      cases ds with
      | nil => simp
      | cons e es => simp [List.intercalate_cons_cons]
    rw [if_neg hne, List.map_cons, List.intercalate_cons_cons]
    simp

theorem trimmed_drop {c : Bytes} (path : List Bytes) (h : isKept c = false) :
    trimmed (c :: path) = trimmed path := by
  rw [trimmed, spelled_drop path h]
  rfl

theorem body_trim (c : Bytes) : (body c).rdropWhile (· == 0x2F) = body c := by
  apply rdropWhile_eq_self
  cases hlast : (body c).getLast? with
  | none => rfl
  | some x =>
      have hsep := body_notSep c x (List.mem_of_getLast? hlast)
      have hx : x ≠ 0x2F := by
        rintro rfl
        cases hsep
      simpa using hx

theorem written_trim (c : Bytes) : (written c).rdropWhile (· == 0x2F) = body c := by
  unfold written
  by_cases hc : closes c = true
  · rw [if_pos hc, List.rdropWhile_concat, if_pos (beq_self_eq_true _), body_trim]
  · rw [if_neg hc, List.append_nil, body_trim]

theorem trimmed_cons (c : Bytes) (path : List Bytes) :
    trimmed (c :: path) = if trimmed path = [] then body c else written c ++ trimmed path := by
  cases path with
  | nil =>
      have hnil : trimmed [] = [] := rfl
      rw [if_pos hnil]
      exact body_trim c
  | cons d ds =>
      rw [trimmed, spelled_cons, rdropWhile_append, written_trim]
      rfl

/-- The separator is copied unless the component ends in a dot. -/
theorem closes_iff {c : Bytes} (h : isKept c = true) :
    closes c = true ↔ c.getLast? ≠ some 0x2E := by
  have hne : c ≠ [] := by
    rintro rfl
    cases h
  rw [closes, List.getLast?_eq_some_getLast hne]
  simp [isDot]

theorem body_of_closes {c : Bytes} (h : closes c = true) : body c = c.map cleanChar := by
  have hself : stripDots c = c := by
    apply rdropWhile_eq_self
    unfold closes at h
    cases hlast : c.getLast? with
    | none => rfl
    | some x =>
        rw [hlast] at h
        exact h
  rw [body, hself]

/-- A component that ends in a dot is shortened. -/
theorem body_length_lt {c : Bytes} (hk : isKept c = true) (h : closes c = false) :
    (body c).length < c.length := by
  have hpre : stripDots c <+: c := List.rdropWhile_prefix isDot c
  rw [body, List.length_map]
  apply Nat.lt_of_le_of_ne hpre.length_le
  intro hlen
  have hne : c ≠ [] := by
    rintro rfl
    cases hk
  have hlast := List.rdropWhile_eq_self_iff.mp (hpre.eq_of_length hlen) hne
  rw [closes, List.getLast?_eq_some_getLast hne, Option.any_some] at h
  apply hlast
  simpa using h

/-- Nothing is lost while every component keeps its end. -/
theorem trimmed_eq_joined {path : List Bytes}
    (h : ∀ c ∈ path, isKept c = true → closes c = true) : trimmed path = joined path := by
  induction path with
  | nil => rfl
  | cons c path ih =>
      have hrest := ih (fun d hd => h d (List.mem_cons_of_mem _ hd))
      by_cases hk : isKept c = true
      · have hc := h c (List.mem_cons_self ..) hk
        rw [trimmed_cons, joined_cons path hk, hrest, written, if_pos hc, body_of_closes hc]
        by_cases hnil : joined path = []
        · rw [if_pos hnil, if_pos hnil, List.append_nil]
        · rw [if_neg hnil, if_neg hnil, List.append_assoc]
          rfl
      · rw [Bool.not_eq_true] at hk
        rw [trimmed_drop path hk, joined_drop path hk, hrest]

theorem joined_length_cons {c : Bytes} (path : List Bytes) (h : isKept c = true) :
    (joined (c :: path)).length
      = c.length + if (joined path).length = 0 then 0 else 1 + (joined path).length := by
  rw [joined_cons path h, List.length_append, List.length_map]
  by_cases hnil : joined path = []
  · simp [hnil]
  · rw [if_neg hnil, if_neg (by simpa using hnil), List.length_cons, Nat.add_comm 1]

theorem trimmed_length_cons (c : Bytes) (path : List Bytes) :
    (trimmed (c :: path)).length = if (trimmed path).length = 0 then (body c).length
      else (body c).length + (if closes c then 1 else 0) + (trimmed path).length := by
  rw [trimmed_cons]
  by_cases hnil : trimmed path = []
  · simp [hnil]
  · rw [if_neg hnil, if_neg (by simpa using hnil), List.length_append, written, List.length_append]
    by_cases hc : closes c = true
    · simp [hc]
    · simp [hc]

/-- The text is never longer than the reference, and shorter once a component
loses its end. -/
theorem trimmed_length (path : List Bytes) : (trimmed path).length ≤ (joined path).length
    ∧ ((∃ c ∈ path, isKept c = true ∧ closes c = false) →
      (trimmed path).length < (joined path).length) := by
  induction path with
  | nil => exact ⟨Nat.le_refl _, by rintro ⟨c, hc, -⟩; cases hc⟩
  | cons c path ih =>
      obtain ⟨hle, hlt⟩ := ih
      by_cases hk : isKept c = true
      · rw [trimmed_length_cons, joined_length_cons path hk]
        -- with its end it is as long as in the reference
        by_cases hc : closes c = true
        · have hbody : (body c).length = c.length := by
            rw [body_of_closes hc, List.length_map]
          rw [if_pos hc, hbody]
          refine ⟨by split <;> split <;> omega, ?_⟩
          rintro ⟨d, hd, hkd, hcd⟩
          rcases List.mem_cons.mp hd with rfl | hd
          · rw [hc] at hcd
            cases hcd
          · have := hlt ⟨d, hd, hkd, hcd⟩
            split <;> split <;> omega
        · -- the dots of this one are lost already
          have hbody := body_length_lt hk (by simpa using hc)
          rw [if_neg hc]
          refine ⟨?_, fun _ => ?_⟩
          · split <;> split <;> omega
          · split <;> split <;> omega
      · rw [Bool.not_eq_true] at hk
        rw [trimmed_drop path hk, joined_drop path hk]
        refine ⟨hle, ?_⟩
        rintro ⟨d, hd, hkd, hcd⟩
        rcases List.mem_cons.mp hd with rfl | hd
        · rw [hk] at hkd
          cases hkd
        · exact hlt ⟨d, hd, hkd, hcd⟩

theorem trimmed_eq_joined_iff (path : List Bytes) :
    trimmed path = joined path ↔ ∀ c ∈ path, isKept c = true → closes c = true := by
  constructor
  · intro h c hc hk
    by_contra hclose
    rw [Bool.not_eq_true] at hclose
    have hlt := (trimmed_length path).2 ⟨c, hc, hk, hclose⟩
    rw [h] at hlt
    exact Nat.lt_irrefl _ hlt
  · exact trimmed_eq_joined

/-- A buffer that has room for the text holds all of it. -/
theorem cleanPath_of_room {cap : Nat} {input : Bytes}
    (h : (spelled (components (cString input))).length < cap) :
    cleanPath cap input = trimmed (components (cString input)) := by
  rw [cleanPath_eq, List.take_of_length_le (by omega)]
  rfl

theorem Untruncated.cleanPath_eq {cap : Nat} {input : Bytes} (h : Untruncated cap input) :
    cleanPath cap input = trimmed (components (cString input)) := by
  -- a buffer big enough for everything
  rw [← h (cap + (spelled (components (cString input))).length + 1) (by omega)]
  exact cleanPath_of_room (by omega)

/-- **When `val_clean_path` works component by component**: unless a component
that stays ends in a dot. -/
theorem cleanPath_eq_reference_iff {cap : Nat} {input : Bytes} (h : Untruncated cap input) :
    cleanPath cap input = referencePath input
      ↔ ∀ c ∈ components (cString input), isKept c = true → c.getLast? ≠ some 0x2E := by
  have hjoined : referencePath input = joined (components (cString input)) := rfl
  rw [h.cleanPath_eq, hjoined, trimmed_eq_joined_iff]
  constructor
  · intro hc c hmem hk
    exact (closes_iff hk).mp (hc c hmem hk)
  · intro hc c hmem hk
    exact (closes_iff hk).mpr (hc c hmem hk)

theorem untruncated_of_room {cap : Nat} {input : Bytes}
    (h : (spelled (components (cString input))).length < cap) : Untruncated cap input := by
  intro cap' hcap
  rw [cleanPath_of_room h, cleanPath_of_room (by omega)]

/-- `/a//./b.c` becomes `a/b.c`. -/
theorem cleanPath_eq_reference_small :
    cleanPath 128 [0x2F, 0x61, 0x2F, 0x2F, 0x2E, 0x2F, 0x62, 0x2E, 0x63]
      = referencePath [0x2F, 0x61, 0x2F, 0x2F, 0x2E, 0x2F, 0x62, 0x2E, 0x63] :=
  (cleanPath_eq_reference_iff (untruncated_of_room (by decide))).mpr (by decide)

/-- `a../b` becomes `ab`. -/
theorem cleanPath_merges :
    ¬ ∀ (cap : Nat) (input : Bytes), Untruncated cap input →
      cleanPath cap input = referencePath input := by
  intro h
  have heq := h 128 [0x61, 0x2E, 0x2E, 0x2F, 0x62] (untruncated_of_room (by decide))
  revert heq
  decide

end ValProtocol
