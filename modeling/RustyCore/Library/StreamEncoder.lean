import RustyCore.Library.FixedWidth

/-! # Streaming encoders

An encoder that takes its input and gives its output in pieces. Each call is offered some
input and some space, reads a prefix of the one and writes into the other, and flushes: if it
leaves space it has written all that it has read. -/

namespace RustyCore

inductive StreamStatus where
  | ok
  | bufError
  | streamEnd
deriving DecidableEq

structure StreamAnswer (σ : Type) where
  status : StreamStatus
  consumed : ℕ
  output : List Byte
  next : σ
deriving DecidableEq

/-- A call with the input and the space that are offered. -/
abbrev StreamEncoder (σ : Type) := σ → List Byte → ℕ → StreamAnswer σ

namespace StreamEncoder

variable {σ : Type}

section Contract

variable (z : StreamEncoder σ) (start : σ)

/-- The state after some calls, with all that they have read and written. -/
inductive Reached : σ → List Byte → List Byte → Prop
  | start : Reached start [] []
  | call {s : σ} {read written : List Byte} (h : Reached s read written) (input : List Byte)
      (space : ℕ) :
      Reached (z s input space).next (read ++ input.take (z s input space).consumed)
        (written ++ (z s input space).output)

/-- What is documented of an encoder. `Flushed` says that nothing is left to write, `decode` is
the decoder on the other side. -/
structure Contract (Flushed : σ → Prop) (decode : List Byte → List Byte) : Prop where
  consumed_le {s : σ} {read written : List Byte} (h : Reached z start s read written)
    (input : List Byte) (space : ℕ) : (z s input space).consumed ≤ input.length
  output_le {s : σ} {read written : List Byte} (h : Reached z start s read written)
    (input : List Byte) (space : ℕ) : (z s input space).output.length ≤ space
  flushed_of_space {s : σ} {read written : List Byte} (h : Reached z start s read written)
    (input : List Byte) (space : ℕ) (hspace : (z s input space).output.length < space) :
    Flushed (z s input space).next
  bufError {s : σ} {read written : List Byte} (h : Reached z start s read written)
    (input : List Byte) (space : ℕ) (hstatus : (z s input space).status = .bufError) :
    (z s input space).consumed = 0 ∧ (z s input space).output = []
  streamEnd {s : σ} {read written : List Byte} (h : Reached z start s read written)
    (input : List Byte) (space : ℕ) (hstatus : (z s input space).status = .streamEnd) :
    (z s input space).consumed = input.length ∧ Flushed (z s input space).next
  flushed_start : Flushed start
  decode_of_flushed {s : σ} {read written : List Byte} (h : Reached z start s read written)
    (hflushed : Flushed s) : decode written = read

end Contract

/-- Calls that are offered what is left of the input and of the space read all of the input and
write all that they have to, none of them in vain. The last state is the one they lead to. -/
inductive Drains (z : StreamEncoder σ) (Flushed : σ → Prop) : σ → List Byte → ℕ → σ → Prop
  | last {s : σ} {input : List Byte} {space : ℕ} (hread : (z s input space).consumed = input.length)
      (hflushed : Flushed (z s input space).next) :
      Drains z Flushed s input space (z s input space).next
  | more {s s' : σ} {input : List Byte} {space : ℕ}
      (hmore : (z s input space).consumed < input.length)
      (hprogress : (z s input space).consumed ≠ 0 ∨ (z s input space).output ≠ [])
      (hrest : Drains z Flushed (z s input space).next (input.drop (z s input space).consumed)
        (space - (z s input space).output.length) s') : Drains z Flushed s input space s'

section Drains

variable {z : StreamEncoder σ} {Flushed : σ → Prop} {s s' : σ} {input : List Byte} {space : ℕ}

theorem drains_iff_of_read (hread : (z s input space).consumed = input.length) :
    Drains z Flushed s input space s' ↔
      Flushed (z s input space).next ∧ s' = (z s input space).next := by
  constructor
  · intro h
    cases h with
    | last _ hflushed => exact ⟨hflushed, rfl⟩
    | more hmore => exact absurd hread hmore.ne
  · rintro ⟨hflushed, rfl⟩
    exact .last hread hflushed

theorem drains_iff_of_more (hmore : (z s input space).consumed < input.length)
    (hprogress : (z s input space).consumed ≠ 0 ∨ (z s input space).output ≠ []) :
    Drains z Flushed s input space s' ↔
      Drains z Flushed (z s input space).next (input.drop (z s input space).consumed)
        (space - (z s input space).output.length) s' := by
  constructor
  · intro h
    cases h with
    | last hread => exact absurd hread hmore.ne
    | more _ _ hrest => exact hrest
  · exact .more hmore hprogress

theorem not_drains_of_stuck (hinput : input ≠ []) (hconsumed : (z s input space).consumed = 0)
    (houtput : (z s input space).output = []) : ¬ Drains z Flushed s input space s' := by
  intro h
  cases h with
  | last hread =>
    rw [hconsumed] at hread
    exact hinput (List.length_eq_zero_iff.mp hread.symm)
  | more _ hprogress => exact hprogress.elim (· hconsumed) (· houtput)

end Drains

end StreamEncoder

/-! ## Stored blocks -/

namespace StoredBlocks

/-- A block with its length and the complement of it before the bytes themselves. -/
def block (bytes : List Byte) : List Byte :=
  0 :: leBytes 2 bytes.length ++ leBytes 2 (0xFFFF - bytes.length) ++ bytes

/-- A block of at most `limit` bytes for each call, an empty one after it. What does not fit
into the space waits. -/
def encode (limit : ℕ) : StreamEncoder (List Byte) := fun pending input space =>
  if space = 0 ∨ (input = [] ∧ pending = []) then
    { status := .bufError, consumed := 0, output := [], next := pending }
  else
    let taken := input.take limit
    let queue := pending ++ if taken = [] then [] else block taken ++ block []
    { status := .ok
      consumed := taken.length
      output := queue.take space
      next := queue.drop space }

/-- The bytes of the blocks, as many as `fuel` at most. -/
def decodeBlocks : ℕ → List Byte → List Byte
  | fuel + 1, 0 :: lo :: hi :: _ :: _ :: rest =>
    let length := ofLeBytes [lo, hi]
    rest.take length ++ decodeBlocks fuel (rest.drop length)
  | _, _ => []

def decode (bytes : List Byte) : List Byte := decodeBlocks bytes.length bytes

/-- The blocks of some pieces. -/
def blocks (pieces : List (List Byte)) : List Byte := (pieces.map block).flatten

theorem blocks_append (left right : List (List Byte)) :
    blocks (left ++ right) = blocks left ++ blocks right := by
  simp [blocks]

theorem decodeBlocks_block {piece : List Byte} (hlength : piece.length < 0x10000) (fuel : ℕ)
    (rest : List Byte) :
    decodeBlocks (fuel + 1) (block piece ++ rest) = piece ++ decodeBlocks fuel rest := by
  have hle : ofLeBytes [BitVec.ofNat 8 piece.length, BitVec.ofNat 8 (piece.length / 256)] =
      piece.length := ofLeBytes_leBytes_of_lt (k := 2) hlength
  have hstep : decodeBlocks (fuel + 1) (block piece ++ rest) =
      (piece ++ rest).take (ofLeBytes
        [BitVec.ofNat 8 piece.length, BitVec.ofNat 8 (piece.length / 256)]) ++
      decodeBlocks fuel ((piece ++ rest).drop (ofLeBytes
        [BitVec.ofNat 8 piece.length, BitVec.ofNat 8 (piece.length / 256)])) := rfl
  rw [hstep, hle, List.take_left, List.drop_left]

theorem decodeBlocks_blocks {pieces : List (List Byte)} {fuel : ℕ}
    (hlength : ∀ piece ∈ pieces, piece.length < 0x10000) (hfuel : pieces.length ≤ fuel) :
    decodeBlocks fuel (blocks pieces) = pieces.flatten := by
  induction pieces generalizing fuel with
  | nil => cases fuel <;> rfl
  | cons piece pieces ih => cases fuel with
    | zero => simp at hfuel
    | succ fuel =>
      have hrest := ih (fun p hp => hlength p (List.mem_cons_of_mem piece hp))
        (Nat.le_of_succ_le_succ hfuel)
      rw [List.flatten_cons, ← hrest]
      exact decodeBlocks_block (hlength piece List.mem_cons_self) fuel _

theorem length_le_blocks (pieces : List (List Byte)) : pieces.length ≤ (blocks pieces).length := by
  induction pieces with
  | nil => exact Nat.le_refl 0
  | cons piece pieces ih =>
    simp only [blocks, List.map_cons, List.flatten_cons, List.length_append,
      List.length_cons, block] at ih ⊢
    omega

section Contract

variable {limit : ℕ}

theorem encode_of_refused {pending input : List Byte} {space : ℕ}
    (h : space = 0 ∨ (input = [] ∧ pending = [])) :
    encode limit pending input space =
      { status := .bufError, consumed := 0, output := [], next := pending } := if_pos h

theorem encode_of_accepted {pending input : List Byte} {space : ℕ}
    (h : ¬ (space = 0 ∨ (input = [] ∧ pending = []))) :
    encode limit pending input space =
      { status := .ok
        consumed := (input.take limit).length
        output := (pending ++ if input.take limit = [] then [] else
          block (input.take limit) ++ block []).take space
        next := (pending ++ if input.take limit = [] then [] else
          block (input.take limit) ++ block []).drop space } := if_neg h

/-- What was written and what waits are the blocks of what was read. -/
theorem reached_blocks (hlimit : limit < 0x10000) {s read written : List Byte}
    (h : StreamEncoder.Reached (encode limit) [] s read written) :
    ∃ pieces, written ++ s = blocks pieces ∧ pieces.flatten = read ∧
      ∀ piece ∈ pieces, piece.length < 0x10000 := by
  induction h with
  | start => exact ⟨[], rfl, rfl, by simp⟩
  | @call s read written h input space ih =>
    obtain ⟨pieces, hblocks, hread, hlength⟩ := ih
    by_cases hrefused : space = 0 ∨ (input = [] ∧ s = [])
    · rw [encode_of_refused hrefused]
      exact ⟨pieces, by simpa using hblocks, by simpa using hread, hlength⟩
    · rw [encode_of_accepted hrefused]
      have htaken : input.take (input.take limit).length = input.take limit := by
        rw [List.length_take, ← List.take_take, List.take_length]
      dsimp only
      rw [htaken, List.append_assoc, List.take_append_drop, ← List.append_assoc, hblocks]
      split_ifs with hnil
      · exact ⟨pieces, by simp, by simp [hnil, hread], hlength⟩
      · refine ⟨pieces ++ [input.take limit, []], ?_, by simp [hread], fun piece hpiece => ?_⟩
        · rw [blocks_append]
          simp [blocks]
        · rcases List.mem_append.mp hpiece with hpiece | hpiece
          · exact hlength piece hpiece
          · rcases List.mem_pair.mp hpiece with rfl | rfl
            · exact Nat.lt_of_le_of_lt (List.length_take_le _ _) hlimit
            · decide

theorem contract (hlimit : limit < 0x10000) :
    StreamEncoder.Contract (encode limit) [] (· = []) decode where
  consumed_le {pending _ _} h input space := by
    by_cases hrefused : space = 0 ∨ (input = [] ∧ pending = [])
    · rw [encode_of_refused hrefused]
      exact Nat.zero_le _
    · rw [encode_of_accepted hrefused]
      exact List.length_take_le' _ _
  output_le {pending _ _} h input space := by
    by_cases hrefused : space = 0 ∨ (input = [] ∧ pending = [])
    · rw [encode_of_refused hrefused]
      exact Nat.zero_le _
    · rw [encode_of_accepted hrefused]
      exact List.length_take_le _ _
  flushed_of_space {pending _ _} h input space hspace := by
    by_cases hrefused : space = 0 ∨ (input = [] ∧ pending = [])
    · rw [encode_of_refused hrefused] at hspace ⊢
      rcases hrefused with hzero | hnone
      · exact absurd hzero (Nat.ne_of_gt hspace)
      · exact hnone.2
    · rw [encode_of_accepted hrefused] at hspace ⊢
      dsimp only at hspace
      rw [List.length_take] at hspace
      exact List.drop_eq_nil_of_le (by omega)
  bufError {pending _ _} h input space hstatus := by
    by_cases hrefused : space = 0 ∨ (input = [] ∧ pending = [])
    · rw [encode_of_refused hrefused]
      exact ⟨rfl, rfl⟩
    · rw [encode_of_accepted hrefused] at hstatus
      cases hstatus
  streamEnd {pending _ _} h input space hstatus := by
    by_cases hrefused : space = 0 ∨ (input = [] ∧ pending = [])
    · rw [encode_of_refused hrefused] at hstatus
      cases hstatus
    · rw [encode_of_accepted hrefused] at hstatus
      cases hstatus
  flushed_start := rfl
  decode_of_flushed h hflushed := by
    obtain ⟨pieces, hblocks, hread, hlength⟩ := reached_blocks hlimit h
    rw [hflushed, List.append_nil] at hblocks
    rw [decode, hblocks, decodeBlocks_blocks hlength (length_le_blocks pieces), hread]

end Contract

end StoredBlocks

end RustyCore
