/-
  ValProtocol.Lib.Layouts
  ───────────────────────
  Records in a buffer: every field has a position and the cells it holds
  there.

  A codec stores a value and takes it back, in any of several
  implementations.  A layout lists what each field of a value holds; a codec
  follows a layout when its encoder stores these fields and its decoder reads
  nothing else:

    • `Tiles.store_eq`  — fields that lie end to end are one block, so none
      overwrites another,
    • `Codec.Follows.exact` — a codec that follows a layout is inverse in both
      directions, cell by cell, and all its implementations agree.
-/
import ValProtocol.Lib.Memory
import Mathlib.Data.List.Flatten

namespace Layouts

variable {ι α β : Type*}

/-! ## §1. Fields. -/

/-- Cells at a position. -/
structure Slot (β : Type*) where
  pos : Nat
  cells : List β

/-- The fields are stored one after another. -/
def store (m : Memory β) (fields : List (Slot β)) : Memory β :=
  fields.foldl (fun m f => m.write f.pos f.cells) m

/-- The fields lie end to end from `start` to `stop`. -/
def Tiles : Nat → List (Slot β) → Nat → Prop
  | start, [], stop => start = stop
  | start, f :: fields, stop => f.pos = start ∧ Tiles (start + f.cells.length) fields stop

/-- The cells of all fields. -/
def block (fields : List (Slot β)) : List β := fields.flatMap Slot.cells

/-- Each field is found at its position. -/
def Holds (m : Memory β) (fields : List (Slot β)) : Prop :=
  ∀ f ∈ fields, m.read f.pos f.cells.length = f.cells

theorem store_cons (m : Memory β) (f : Slot β) (fields : List (Slot β)) :
    store m (f :: fields) = store (m.write f.pos f.cells) fields := rfl

theorem block_cons (f : Slot β) (fields : List (Slot β)) :
    block (f :: fields) = f.cells ++ block fields := rfl

@[simp] theorem holds_nil (m : Memory β) : Holds m [] := by
  intro f hf
  cases hf

@[simp] theorem holds_cons {m : Memory β} {f : Slot β} {fields : List (Slot β)} :
    Holds m (f :: fields) ↔ m.read f.pos f.cells.length = f.cells ∧ Holds m fields :=
  List.forall_mem_cons

theorem Tiles.block_length {start stop : Nat} {fields : List (Slot β)}
    (h : Tiles start fields stop) : start + (block fields).length = stop := by
  induction fields generalizing start with
  | nil => exact h
  | cons f fields ih =>
      have hrest := ih h.2
      rw [block_cons, List.length_append]
      omega

/-- **Fields end to end are one block.** -/
theorem Tiles.store_eq {start stop : Nat} {fields : List (Slot β)}
    (h : Tiles start fields stop) (m : Memory β) :
    store m fields = m.write start (block fields) := by
  induction fields generalizing start m with
  | nil => exact (m.write_nil start).symm
  | cons f fields ih =>
      -- the first field, and behind it the block of the others
      obtain ⟨hpos, hrest⟩ := h
      rw [store_cons, ih hrest, hpos, m.write_append, block_cons]

/-- No field is overwritten by the ones stored after it. -/
theorem Tiles.holds_store {start stop : Nat} {fields : List (Slot β)}
    (h : Tiles start fields stop) (m : Memory β) : Holds (store m fields) fields := by
  induction fields generalizing start m with
  | nil => exact holds_nil _
  | cons f fields ih =>
      obtain ⟨hpos, hrest⟩ := h
      rw [holds_cons, store_cons]
      refine ⟨?_, ih hrest _⟩
      -- what is stored afterwards begins where this field ends
      rw [hrest.store_eq, Memory.read_write_before _ (by omega)]
      exact m.read_write_self f.pos f.cells

/-- A buffer that holds all fields holds their block. -/
theorem Tiles.read_block {start stop : Nat} {fields : List (Slot β)}
    (h : Tiles start fields stop) {m : Memory β} (hm : Holds m fields) :
    m.read start (block fields).length = block fields := by
  induction fields generalizing start with
  | nil => rfl
  | cons f fields ih =>
      obtain ⟨hpos, hrest⟩ := h
      obtain ⟨hf, hfields⟩ := holds_cons.mp hm
      rw [block_cons, List.length_append, ← m.read_append, ih hrest hfields, ← hpos, hf]

/-! ## §2. Codecs. -/

/-- Encoders and decoders of the values of a type, one pair for each
implementation; an encoding has `size` cells. -/
structure Codec (ι α β : Type*) where
  size : Nat
  encode : ι → α → Memory β → Memory β
  decode : ι → Memory β → α

/-- A codec follows a layout.  `clear` puts the cells that belong to no field
of the value in the state in which every encoding has them. -/
structure Codec.Follows (c : Codec ι α β) (layout : α → List (Slot β))
    (clear : Memory β → Memory β) : Prop where
  tiles : ∀ v, Tiles 0 (layout v) c.size
  encode_eq : ∀ i v m, c.encode i v m = store m (layout v)
  decode_eq : ∀ i v m, Holds m (layout v) → c.decode i m = v
  holds_decode : ∀ i m, Holds (clear m) (layout (c.decode i m))
  clear_local : ∀ w w' : Memory β, w.read 0 c.size = w'.read 0 c.size →
    (clear w).read 0 c.size = (clear w').read 0 c.size

/-- What a codec with a layout is for, in any two implementations. -/
structure Codec.Exact (c : Codec ι α β) (layout : α → List (Slot β))
    (clear : Memory β → Memory β) : Prop where
  /-- The fields fill the encoding, without gap or overlap. -/
  tiles : ∀ v, Tiles 0 (layout v) c.size
  /-- An encoding has every field at its position. -/
  holds : ∀ i v m, Holds (c.encode i v m) (layout v)
  /-- Nothing behind the encoding is written, -/
  frame : ∀ i v m a, c.size ≤ a → c.encode i v m a = m a
  /-- and nothing behind it is read. -/
  decode_local : ∀ i w w', w.read 0 c.size = w'.read 0 c.size → c.decode i w = c.decode i w'
  decode_encode : ∀ i j v m, c.decode j (c.encode i v m) = v
  encode_decode : ∀ i j w m,
    (c.encode j (c.decode i w) m).read 0 c.size = (clear w).read 0 c.size
  encode_agree : ∀ i j, c.encode i = c.encode j
  decode_agree : ∀ i j, c.decode i = c.decode j

section

variable {c : Codec ι α β} {layout : α → List (Slot β)} {clear : Memory β → Memory β}

/-- An encoding is one block, over whatever the buffer held. -/
theorem Codec.Follows.encode_write (h : c.Follows layout clear) (i : ι) (v : α) (m : Memory β) :
    c.encode i v m = m.write 0 (block (layout v)) := by
  rw [h.encode_eq, (h.tiles v).store_eq]

/-- An encoding whose block is known. -/
theorem Codec.Follows.encode_bytes (h : c.Follows layout clear) (i : ι) {v : α} {bs : List β}
    (hblock : block (layout v) = bs) (m : Memory β) : c.encode i v m = m.write 0 bs := by
  rw [h.encode_write, hblock]

theorem Codec.Follows.block_length (h : c.Follows layout clear) (v : α) :
    (block (layout v)).length = c.size := by
  have hlen := (h.tiles v).block_length
  omega

/-- The clearing changes nothing a decoder sees, whatever the implementation. -/
theorem Codec.Follows.decode_clear (h : c.Follows layout clear) (i j : ι) (w : Memory β) :
    c.decode i (clear w) = c.decode j w :=
  h.decode_eq i (c.decode j w) (clear w) (h.holds_decode j w)

/-- Encoding what was decoded stores the cells that were there. -/
theorem Codec.Follows.encode_decoded (h : c.Follows layout clear) (i j : ι) (w m : Memory β) :
    c.encode j (c.decode i w) m = m.write 0 ((clear w).read 0 c.size) := by
  have hblock := (h.tiles (c.decode i w)).read_block (h.holds_decode i w)
  rw [h.block_length] at hblock
  rw [h.encode_write, hblock]

theorem Codec.Follows.decode_encode (h : c.Follows layout clear) (i j : ι) (v : α)
    (m : Memory β) : c.decode j (c.encode i v m) = v := by
  apply h.decode_eq
  rw [h.encode_eq]
  exact (h.tiles v).holds_store m

/-- **A codec that follows a layout is exact.** -/
theorem Codec.Follows.exact (h : c.Follows layout clear) : c.Exact layout clear where
  tiles := h.tiles
  holds := by
    intro i v m
    rw [h.encode_eq]
    exact (h.tiles v).holds_store m
  frame := by
    intro i v m a ha
    rw [h.encode_write]
    exact m.write_apply_behind (by rw [h.block_length]; omega)
  decode_local := by
    intro i w w' hw
    -- both values have the same encoding
    have hsame : c.encode i (c.decode i w) w = c.encode i (c.decode i w') w := by
      rw [h.encode_decoded, h.encode_decoded, h.clear_local w w' hw]
    rw [← h.decode_encode i i (c.decode i w) w, hsame, h.decode_encode]
  decode_encode := h.decode_encode
  encode_decode := by
    intro i j w m
    have hread := m.read_write_self 0 ((clear w).read 0 c.size)
    rwa [Memory.read_length, ← h.encode_decoded i j] at hread
  encode_agree := by
    intro i j
    funext v m
    rw [h.encode_eq, h.encode_eq]
  decode_agree := by
    intro i j
    funext w
    -- both decoders agree with one of them on the cleared cells
    rw [← h.decode_clear j i w, h.decode_clear j j w]

end

end Layouts
