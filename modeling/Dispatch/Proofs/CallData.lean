import Dispatch.Call
import Dispatch.JsonRpc.Revert
import Dispatch.Proofs.Digits
import Dispatch.Proofs.Utf8

/-!
# Contract calls read back

The bytes of a call are the selector of its function and its arguments: heads of one word each, then
the tails, and the head of an argument of any length holds the place of its tail. A receiver that
follows the heads finds the arguments that were given.
-/

set_option autoImplicit false

namespace Dispatch

namespace Abi

/-! ## Sizes -/

theorem length_word (n : Nat) : (word n).length = 32 := Bytes.length_ofNat 32 n

theorem toNat_word {n : Nat} (h : n < 2 ^ 256) : Bytes.toNat (word n) = n := by
  rw [word, Bytes.toNat_ofNat]
  exact Nat.mod_eq_of_lt h

theorem length_padded_mod (b : Bytes) : (padded b).length % 32 = 0 := by
  rw [padded, List.length_append, List.length_replicate]
  omega

theorem length_tail_mod (a : Argument) : a.tail.length % 32 = 0 := by
  cases a with
  | bytes b =>
    have := length_padded_mod b
    rw [Argument.tail, List.length_append, length_word]
    omega
  | _ => rfl

theorem length_head (offset : Nat) (a : Argument) : (a.head offset).length = 32 := by
  cases a <;> exact length_word _

theorem length_heads (offset : Nat) (args : List Argument) :
    (heads offset args).length = 32 * args.length := by
  induction args generalizing offset with
  | nil => rfl
  | cons a rest ih =>
    rw [heads, List.length_append, length_head, ih, List.length_cons]
    omega

theorem length_tails_mod (args : List Argument) : (args.flatMap Argument.tail).length % 32 = 0 := by
  induction args with
  | nil => rfl
  | cons a rest ih =>
    have := length_tail_mod a
    rw [List.flatMap_cons, List.length_append]
    omega

theorem length_arguments (args : List Argument) :
    (arguments args).length = 32 * args.length + (args.flatMap Argument.tail).length := by
  rw [arguments, List.length_append, length_heads]

theorem length_selector (signature : String) : (selector signature).length = 4 := by
  rw [selector, List.length_take, (Keccak.hash _).length_eq]
  rfl

/-! ## The heads -/

/-- Where the tail of an argument starts: behind all heads and the tails before its own. -/
def place (args : List Argument) (i : Nat) : Nat :=
  32 * args.length + ((args.take i).flatMap Argument.tail).length

/-- All heads, each with the place of its argument's tail, and all tails. -/
def laidOut (args : List Argument) : Bytes :=
  (args.mapIdx fun i a => a.head (place args i)).flatten ++ args.flatMap Argument.tail

theorem heads_eq (offset : Nat) (args : List Argument) :
    heads offset args =
      (args.mapIdx fun i a =>
        a.head (offset + ((args.take i).flatMap Argument.tail).length)).flatten := by
  induction args generalizing offset with
  | nil => rfl
  | cons a rest ih =>
    rw [heads, ih, List.mapIdx_cons, List.flatten_cons]
    simp [Nat.add_assoc]

theorem arguments_eq_laidOut (args : List Argument) : arguments args = laidOut args := by
  rw [arguments, heads_eq]
  rfl

/-! ## Reading -/

/-- What an argument is declared to be. -/
inductive Kind where
  | address
  | uint
  | bytes
  | text
deriving DecidableEq

inductive Value where
  | address (a : Address)
  | uint (n : BitVec 256)
  | bytes (b : Bytes)
  | text (s : String)

def Value.kind : Value → Kind
  | .address _ => .address
  | .uint _ => .uint
  | .bytes _ => .bytes
  | .text _ => .text

def Value.argument : Value → Argument
  | .address a => .address a
  | .uint n => .uint n
  | .bytes b => .bytes b
  | .text s => .bytes (Bytes.ofText s)

open Revert (wordAt?)

def bytesFrom? (b : Bytes) (i : Nat) : Option Bytes := do
  let start ← wordAt? b i
  let length ← wordAt? b start
  if start + 32 + length ≤ b.length then some ((b.drop (start + 32)).take length) else none

def Kind.read? (b : Bytes) (i : Nat) : Kind → Option Value
  | .address => do
    let n ← wordAt? b i
    if n < 256 ^ 20 then some (.address (.ofNat n)) else none
  | .uint => (wordAt? b i).map fun n => .uint (.ofNat 256 n)
  | .bytes => (bytesFrom? b i).map .bytes
  | .text => ((bytesFrom? b i).bind Bytes.toText?).map .text

def readAll? (b : Bytes) : Nat → List Kind → Option (List Value)
  | _, [] => some []
  | i, kind :: rest => do
    let value ← kind.read? b i
    let values ← readAll? b (i + 32) rest
    some (value :: values)

/-! ## Parts of byte strings -/

/-- A part stands at a position. -/
def StandsAt (b : Bytes) (i : Nat) (part : Bytes) : Prop :=
  ∃ before after, b = before ++ part ++ after ∧ before.length = i

section
variable {b x y : Bytes} {i : Nat}

theorem StandsAt.left (h : StandsAt b i (x ++ y)) : StandsAt b i x := by
  obtain ⟨before, after, rfl, hi⟩ := h
  exact ⟨before, y ++ after, by simp, hi⟩

theorem StandsAt.right (h : StandsAt b i (x ++ y)) : StandsAt b (i + x.length) y := by
  obtain ⟨before, after, rfl, rfl⟩ := h
  exact ⟨before ++ x, after, by simp, List.length_append⟩

theorem StandsAt.le (h : StandsAt b i x) : i + x.length ≤ b.length := by
  obtain ⟨before, after, rfl, rfl⟩ := h
  simp only [List.length_append]
  omega

theorem StandsAt.take_drop (h : StandsAt b i x) : (b.drop i).take x.length = x := by
  obtain ⟨before, after, rfl, rfl⟩ := h
  simp

theorem StandsAt.wordAt? {n : Nat} (h : StandsAt b i (word n)) (fits : n < 2 ^ 256) :
    Revert.wordAt? b i = some n := by
  have room := h.le
  have read := h.take_drop
  rw [length_word] at room read
  rw [Revert.wordAt?, if_pos room, read, toNat_word fits]

theorem StandsAt.bytesFrom? {start : Nat} {content : Bytes} (head : StandsAt b i (word start))
    (tail : StandsAt b start (Argument.tail (.bytes content))) (fits : b.length < 2 ^ 256) :
    bytesFrom? b i = some content := by
  have size := tail.left
  have body := tail.right
  rw [padded] at body
  rw [length_word] at body
  have behind := size.le
  have room := body.left.le
  rw [length_word] at behind
  have found : Revert.wordAt? b i = some start := head.wordAt? (by omega)
  have counted : Revert.wordAt? b start = some content.length := size.wordAt? (by omega)
  simp only [Abi.bytesFrom?, found, counted, Option.bind_eq_bind, Option.bind_some, if_pos room,
    body.left.take_drop]

end

theorem toNat_address_lt (a : Address) : a.toNat < 256 ^ 20 := by
  have := Bytes.toNat_lt a.toList
  rwa [a.length_eq] at this

theorem ofNat_toNat_address (a : Address) : FixedBytes.ofNat a.toNat = a := by
  apply FixedBytes.toList_inj.mp
  have := Bytes.ofNat_toNat a.toList
  rwa [a.length_eq] at this

theorem read?_stands {b : Bytes} {i offset : Nat} (v : Value)
    (head : StandsAt b i (v.argument.head offset))
    (tail : StandsAt b offset v.argument.tail) (fits : b.length < 2 ^ 256) :
    v.kind.read? b i = some v := by
  cases v with
  | address a =>
    have small := toNat_address_lt a
    have found : wordAt? b i = some a.toNat := head.wordAt? (by omega)
    simp only [Value.kind, Kind.read?, found, Option.bind_eq_bind, Option.bind_some, if_pos small,
      ofNat_toNat_address]
  | uint n =>
    have found : wordAt? b i = some n.toNat := head.wordAt? n.isLt
    simp [Value.kind, Kind.read?, found]
  | bytes c =>
    have found : bytesFrom? b i = some c := head.bytesFrom? tail fits
    simp [Value.kind, Kind.read?, found]
  | text s =>
    have found : bytesFrom? b i = some (Bytes.ofText s) := head.bytesFrom? tail fits
    simp [Value.kind, Kind.read?, found, Bytes.toText?_ofText]

theorem readAll?_stands {b : Bytes} {i offset : Nat} (values : List Value)
    (fronts : StandsAt b i (heads offset (values.map Value.argument)))
    (tails : StandsAt b offset ((values.map Value.argument).flatMap Argument.tail))
    (fits : b.length < 2 ^ 256) :
    readAll? b i (values.map Value.kind) = some values := by
  induction values generalizing i offset with
  | nil => rfl
  | cons v rest ih =>
    rw [List.map_cons, heads] at fronts
    rw [List.map_cons, List.flatMap_cons] at tails
    have first := read?_stands v fronts.left tails.left fits
    have behind := fronts.right
    rw [length_head] at behind
    simp only [List.map_cons, readAll?, first, ih behind tails.right, Option.bind_eq_bind,
      Option.bind_some]

theorem readAll?_arguments (values : List Value)
    (fits : (arguments (values.map Value.argument)).length < 2 ^ 256) :
    readAll? (arguments (values.map Value.argument)) 0 (values.map Value.kind) = some values := by
  have fronts : StandsAt (arguments (values.map Value.argument)) 0
      (heads (32 * values.length) (values.map Value.argument)) := by
    refine ⟨[], (values.map Value.argument).flatMap Argument.tail, ?_, rfl⟩
    rw [arguments, List.length_map, List.nil_append]
  have tails : StandsAt (arguments (values.map Value.argument)) (32 * values.length)
      ((values.map Value.argument).flatMap Argument.tail) := by
    refine ⟨heads (32 * values.length) (values.map Value.argument), [], ?_, ?_⟩
    · rw [arguments, List.length_map, List.append_nil]
    · rw [length_heads, List.length_map]
  exact readAll?_stands values fronts tails fits

end Abi

open Abi (Kind Value selector arguments laidOut readAll?)

inductive ContractFunction where
  | transfer
  | approve
  | registerValidator
  | linkNodeAddress
deriving DecidableEq

namespace ContractFunction

def name : ContractFunction → String
  | transfer => "transfer"
  | approve => "approve"
  | registerValidator => "registerValidator"
  | linkNodeAddress => "linkNodeAddress"

def kinds : ContractFunction → List Kind
  | transfer => [.address, .uint]
  | approve => [.address, .uint]
  | registerValidator => [.text, .text, .uint, .uint]
  | linkNodeAddress => [.address, .bytes]

end ContractFunction

def Abi.Kind.name : Kind → String
  | .address => "address"
  | .uint => "uint256"
  | .bytes => "bytes"
  | .text => "string"

def ContractFunction.signature (f : ContractFunction) : String :=
  f.name ++ "(" ++ String.intercalate "," (f.kinds.map Kind.name) ++ ")"

/-- A function of a contract with its arguments. -/
inductive Invocation where
  | transfer (recipient : Address) (amount : BitVec 256)
  | approve (spender : Address) (amount : BitVec 256)
  | registerValidator (name description : String) (feeRate minimumDelegation : BitVec 256)
  | linkNodeAddress (node : Address) (proof : Bytes)

namespace Invocation

def function : Invocation → ContractFunction
  | transfer _ _ => .transfer
  | approve _ _ => .approve
  | registerValidator _ _ _ _ => .registerValidator
  | linkNodeAddress _ _ => .linkNodeAddress

def values : Invocation → List Value
  | transfer recipient amount => [.address recipient, .uint amount]
  | approve spender amount => [.address spender, .uint amount]
  | registerValidator name description feeRate minimumDelegation =>
    [.text name, .text description, .uint feeRate, .uint minimumDelegation]
  | linkNodeAddress node proof => [.address node, .bytes proof]

def call (contract : Address) : Invocation → Call
  | transfer recipient amount => Token.transfer contract recipient amount
  | approve spender amount => Token.approve contract spender amount
  | registerValidator name description feeRate minimumDelegation =>
    ValidatorService.registerValidator contract name description feeRate minimumDelegation
  | linkNodeAddress node proof => ValidatorService.linkNodeAddress contract node proof

theorem kinds_values (c : Invocation) : c.values.map Value.kind = c.function.kinds := by
  cases c <;> rfl

theorem eq_of_values {c d : Invocation} (function : c.function = d.function)
    (values : c.values = d.values) : c = d := by
  cases c <;> cases d <;> cases function <;> simp_all [Invocation.values]

theorem signature_eq (f : ContractFunction) : f.signature = match f with
    | .transfer => "transfer(address,uint256)"
    | .approve => "approve(address,uint256)"
    | .registerValidator => "registerValidator(string,string,uint256,uint256)"
    | .linkNodeAddress => "linkNodeAddress(address,bytes)" := by
  cases f <;> decide +kernel

theorem data_call (c : Invocation) (contract : Address) :
    (c.call contract).data =
      selector c.function.signature ++ arguments (c.values.map Value.argument) := by
  rw [signature_eq]
  cases c <;> rfl

theorem length_data (c : Invocation) (contract : Address) :
    (c.call contract).data.length = 4 + (arguments (c.values.map Value.argument)).length := by
  rw [data_call, List.length_append, Abi.length_selector]

theorem readAll?_data (c : Invocation) (contract : Address)
    (fits : (c.call contract).data.length < 2 ^ 256) :
    readAll? ((c.call contract).data.drop 4) 0 c.function.kinds = some c.values := by
  rw [length_data] at fits
  have behind : (c.call contract).data.drop 4 = arguments (c.values.map Value.argument) := by
    rw [data_call]
    exact List.drop_left' (Abi.length_selector _)
  rw [behind, ← kinds_values]
  exact Abi.readAll?_arguments c.values (by omega)

end Invocation

/-- The bytes of a call are the first four of the digest of the function's signature and the
arguments as laid out in their order. Behind the selector the arguments are read back, so no other
arguments of the function have these bytes. Places and lengths are words, so this is said of calls
that are not longer than a word can tell. -/
theorem call_data_read_back (c : Invocation) (contract : Address) :
    (c.call contract).data =
      (Keccak.hash (Bytes.ofText c.function.signature)).toList.take 4 ++ laidOut
        (c.values.map Value.argument) ∧
    (c.call contract).data.length % 32 = 4 ∧
    ((c.call contract).data.length < 2 ^ 256 →
      readAll? ((c.call contract).data.drop 4) 0 c.function.kinds = some c.values ∧
      ∀ (d : Invocation) (contract' : Address), d.function = c.function →
        (d.call contract').data = (c.call contract).data → d = c) := by
  refine ⟨?_, ?_, fun fits => ⟨c.readAll?_data contract fits, fun d contract' function data => ?_⟩⟩
  · rw [c.data_call, Abi.arguments_eq_laidOut]
    rfl
  · have tails := Abi.length_tails_mod (c.values.map Value.argument)
    rw [c.length_data, Abi.length_arguments]
    omega
  · have read := d.readAll?_data contract' (by rwa [data])
    rw [data, function, c.readAll?_data contract fits] at read
    exact Invocation.eq_of_values function (Option.some.inj read).symm

def registration : Invocation :=
  .registerValidator "naïve “thirty-three” byte…" "" 15 (.allOnes 256)

theorem registration_read_back :
    (registration.call (.ofNat 1)).data.length = 260 ∧
    readAll? ((registration.call (.ofNat 1)).data.drop 4) 0 [.text, .text, .uint, .uint] =
      some [.text "naïve “thirty-three” byte…", .text "", .uint 15, .uint (.allOnes 256)] := by
  have size : (registration.call (.ofNat 1)).data.length = 260 := by
    rw [registration.length_data]
    decide +kernel
  exact ⟨size, ((call_data_read_back registration (.ofNat 1)).2.2 (by omega)).1⟩

end Dispatch
