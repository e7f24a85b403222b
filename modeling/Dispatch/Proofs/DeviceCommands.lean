import Dispatch.Proofs.DeviceSigning
import Mathlib.Algebra.Order.Floor.Div

/-!
# The commands that hand over a payload

What is to be signed goes to a device behind the path of the account, in as few commands as can hold
it. Each command tells the length of its data, only the first one starts anew, and all but the last
are full, so that the device gets back the whole by joining their data.
-/

set_option autoImplicit false

namespace Dispatch

namespace Bytes

theorem chunks_of_ne_nil {size : Nat} (hs : 0 < size) {b : Bytes} (hb : b ≠ []) :
    chunks size b = b.take size :: chunks size (b.drop size) := by
  obtain ⟨k, rfl⟩ := Nat.exists_eq_add_of_lt hs
  cases b with
  | nil => exact absurd rfl hb
  | cons d rest => simp [chunks]

theorem getElem?_chunks {size : Nat} (hs : 0 < size) (b : Bytes) (i : Nat) :
    (chunks size b)[i]? = if i * size < b.length then some ((b.drop (i * size)).take size)
    else none := by
  induction i generalizing b with
  | zero =>
    cases b with
    | nil => simp [chunks]
    | cons d rest => rw [chunks_of_ne_nil hs (List.cons_ne_nil d rest)]; simp
  | succ i ih =>
    by_cases hb : b = []
    · simp [hb, chunks]
    · have place : (i + 1) * size = size + i * size := by rw [Nat.succ_mul, Nat.add_comm]
      have inside : i * size < b.length - size ↔ (i + 1) * size < b.length := by omega
      rw [chunks_of_ne_nil hs hb, List.getElem?_cons_succ, ih, List.length_drop,
        List.drop_drop, ← place]
      simp only [inside]

theorem chunks_flatten_of_length {size : Nat} (hs : 0 < size) {parts : List Bytes}
    (h : ∀ part ∈ parts, part.length = size) :
    chunks size parts.flatten = parts := by
  induction parts with
  | nil => simp [chunks]
  | cons part parts ih =>
    obtain ⟨here, rest⟩ := List.forall_mem_cons.mp h
    have filled : part ≠ [] := List.ne_nil_of_length_pos (here ▸ hs)
    rw [List.flatten_cons, chunks_of_ne_nil hs (List.append_ne_nil_of_left_ne_nil filled _),
      List.take_left' here,
      List.drop_left' here, ih rest]

theorem length_chunks {size : Nat} (hs : 0 < size) (b : Bytes) :
    (chunks size b).length = b.length ⌈/⌉ size := by
  refine eq_of_forall_ge_iff fun i => ?_
  calc (chunks size b).length ≤ i
    _ ↔ (chunks size b)[i]? = none := List.getElem?_eq_none_iff.symm
    _ ↔ b.length ≤ size * i := by simp [getElem?_chunks hs, Nat.mul_comm]
    _ ↔ b.length ⌈/⌉ size ≤ i := (ceilDiv_le_iff_le_mul hs).symm

end Bytes

namespace Ledger

theorem getElem?_signCommands (pathPrefix payload : Bytes) (i : Nat) :
    (signCommands pathPrefix payload)[i]? = (Bytes.chunks chunkSize (pathPrefix ++ payload))[i]?.map
      (command 0x04 (if i = 0 then 0x00 else 0x80)) := by
  rw [signCommands]
  cases Bytes.chunks chunkSize (pathPrefix ++ payload) with
  | nil => rfl
  | cons first more =>
    cases i with
    | zero => rfl
    | succ i =>
      rw [List.getElem?_cons_succ, List.getElem?_cons_succ, List.getElem?_map]
      rfl

theorem length_le_of_mem_signCommands {pathPrefix payload cmd : Bytes}
    (h : cmd ∈ signCommands pathPrefix payload) :
    cmd.length ≤ 260 := by
  obtain ⟨i, here⟩ := List.mem_iff_getElem?.mp h
  rw [getElem?_signCommands] at here
  obtain ⟨data, part, rfl⟩ := Option.map_eq_some_iff.mp here
  have short := Bytes.length_le_of_mem_chunks (by decide) _ data (List.mem_of_getElem? part)
  rw [chunkSize] at short
  simp only [command, List.length_append, List.length_cons, List.length_nil]
  omega

theorem length_signCommands (pathPrefix payload : Bytes) :
    (signCommands pathPrefix payload).length = (pathPrefix ++ payload).length ⌈/⌉ chunkSize := by
  rw [← Bytes.length_chunks (by decide), signCommands]
  cases Bytes.chunks chunkSize (pathPrefix ++ payload) with
  | nil => rfl
  | cons first more => simp

theorem lt_length_signCommands {pathPrefix payload : Bytes} {i : Nat} :
    i < (signCommands pathPrefix payload).length ↔ i * 255 < (pathPrefix ++ payload).length := by
  rw [length_signCommands, ← not_le, ceilDiv_le_iff_le_mul (by decide), not_le, Nat.mul_comm,
    chunkSize]

theorem flatMap_drop_signCommands (pathPrefix payload : Bytes) :
    (signCommands pathPrefix payload).flatMap (List.drop 5) = pathPrefix ++ payload := by
  have joined := Bytes.chunks_flatten chunkSize (pathPrefix ++ payload)
  have behind (parameter : UInt8) (data : Bytes) : (command 0x04 parameter data).drop 5 = data :=
    rfl
  rw [signCommands]
  cases hc : Bytes.chunks chunkSize (pathPrefix ++ payload) with
  | nil => rwa [hc] at joined
  | cons first more =>
    rw [hc, List.flatten_cons] at joined
    simpa [behind, List.flatMap_map, List.flatMap_id'] using joined

end Ledger

open Ledger in
/-- The commands to sign a payload are as few as can hold it behind the path, and joining what
stands behind their heads gives back the path and the payload. The head of each tells the true
length of its data and whether it is the first one; all but the last are full, and the last one is
not empty. -/
theorem commands_hand_over_payload (pathPrefix payload : Bytes) :
    (signCommands pathPrefix payload).length = (pathPrefix ++ payload).length ⌈/⌉ 255 ∧
    (signCommands pathPrefix payload).flatMap (List.drop 5) = pathPrefix ++ payload ∧
    ∀ i : Fin (signCommands pathPrefix payload).length, ∃ n data,
      (signCommands pathPrefix payload)[i] =
        [0xe0, 0x04, if i.val = 0 then 0x00 else 0x80, 0x00, n] ++ data ∧
      n.toNat = data.length ∧
      if i.val + 1 < (signCommands pathPrefix payload).length then data.length = 255
      else 1 ≤ data.length ∧ data.length ≤ 255 := by
  refine ⟨length_signCommands pathPrefix payload, flatMap_drop_signCommands pathPrefix payload,
    fun i => ?_⟩
  have here := lt_length_signCommands.mp i.isLt
  have part := getElem?_signCommands pathPrefix payload i
  rw [chunkSize, Bytes.getElem?_chunks (by decide), if_pos here, Option.map_some] at part
  generalize hd : ((pathPrefix ++ payload).drop (i.val * 255)).take 255 = data at part
  have size : data.length = min 255 ((pathPrefix ++ payload).length - i.val * 255) := by
    rw [← hd, List.length_take, List.length_drop]
  refine ⟨UInt8.ofNat data.length, data, (List.getElem_eq_iff i.isLt).mpr part, ?_, ?_⟩
  · rw [UInt8.toNat_ofNat', Nat.mod_eq_of_lt (by omega)]
  · simp only [lt_length_signCommands]
    split_ifs <;> omega

end Dispatch
