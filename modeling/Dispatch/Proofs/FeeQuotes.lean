import Dispatch.Proofs.NodeFailures
import Mathlib.Algebra.Group.Nat.Defs

/-!
# What fees come to

Fees are refused before anything is asked when they would be scaled by what is no positive number.
Else overrides choose the model and stand in it as they are, and the node is asked for what is left
open, each value once.
-/

set_option autoImplicit false

namespace Dispatch
open Program (Environment Event Moment)

def Fees.model : Fees → FeeModel
  | .legacy _ => .legacy
  | .dynamic _ _ => .dynamic

def Fees.Keeps (o : Options) : Fees → Prop
  | .legacy price => ∀ p ∈ o.gasPrice, price = p
  | .dynamic ceiling tip => (∀ c ∈ o.maxFee, ceiling = c) ∧ ∀ t ∈ o.tip, tip = t

/-- The model of the fees: a price before a ceiling and a tip, and these before the settings. -/
inductive Picks (s : Settings) (o : Options) : FeeModel → Prop
  | price (given : o.gasPrice.isSome) : Picks s o .legacy
  | overrides (unpriced : o.gasPrice = none) (given : o.maxFee.isSome ∨ o.tip.isSome) :
      Picks s o .dynamic
  | settings (unpriced : o.gasPrice = none) (uncapped : o.maxFee = none) (untipped : o.tip = none) :
    Picks s o s.feeModel

/-- What the node may be asked for the fees. -/
inductive Wanted (s : Settings) (o : Options) : NodeQuestion → Prop
  | price (picks : Picks s o .legacy) (unpriced : o.gasPrice = none)
      (unset : s.defaultGasPrice = none) :
    Wanted s o .gasPrice
  | tip (picks : Picks s o .dynamic) (untipped : o.tip = none) : Wanted s o .priorityFee
  | block (picks : Picks s o .dynamic) (uncapped : o.maxFee = none) : Wanted s o .latestBlock

/-- A value that is given, or else read off an answer among the events. -/
inductive Known {α : Type} (given : Option α) (q : NodeQuestion) (reads : q.Answer → α → Prop)
    (es : List (Event Node)) : α → Prop
  | given {a : α} (h : given = some a) : Known given q reads es a
  | told {a : α} {t : Nat} {answer : q.Answer} (unset : given = none)
      (heard : Event.asked (I := Node) t q answer ∈ es) (read : reads answer a) :
        Known given q reads es a

/-- The node's price scaled by the multiplier. -/
def Scales (m : Binary64) (answer : Except Failure (BitVec 128)) (price : BitVec 128) : Prop :=
  ∃ n, answer = .ok n ∧ price = applyMultiplier n m

def Tops (tip : BitVec 128) (answer : Except Failure BlockFees) (ceiling : BitVec 128) : Prop :=
  ∃ limit base, answer = .ok ⟨limit, some base⟩ ∧ ceiling.toNat = 2 * base.toNat + tip.toNat

abbrev Price (s : Settings) (o : Options) : List (Event Node) → BitVec 128 → Prop :=
  Known (o.gasPrice.or s.defaultGasPrice) .gasPrice (Scales (s.multiplier o))

abbrev Tip (s : Settings) (o : Options) : List (Event Node) → BitVec 128 → Prop :=
  Known o.tip .priorityFee (Scales (s.multiplier o))

abbrev Ceiling (o : Options) (tip : BitVec 128) : List (Event Node) → BitVec 128 → Prop :=
  Known o.maxFee .latestBlock (Tops tip)

/-! ## Obtaining a value -/

section
variable {α : Type} {given : Option α} {q : NodeQuestion} {read : q.Answer → Except Failure α}
  {es more : List (Event Node)} {r : Except Failure α} {a : α}

inductive Obtained (given : Option α) (q : NodeQuestion) (read : q.Answer → Except Failure α) :
    List (Event Node) → Except Failure α → Prop
  | given {a : α} (h : given = some a) : Obtained given q read [] (.ok a)
  | told {t : Nat} {answer : q.Answer} (unset : given = none) :
    Obtained given q read [.asked t q answer] (read answer)

theorem Obtained.open_of_asked (h : Obtained given q read es r) {q' : NodeQuestion}
    (asked : q' ∈ questions es) :
    q' = q ∧ given = none := by
  cases h with
  | given => exact absurd asked List.not_mem_nil
  | told unset => exact ⟨List.mem_singleton.mp asked, unset⟩

theorem Obtained.not_asked (h : Obtained given q read es r) {q' : NodeQuestion} (other : q' ≠ q) :
    q' ∉ questions es :=
  fun asked => other (h.open_of_asked asked).1

theorem Obtained.eq_of_given (h : Obtained given q read es (.ok a)) {b : α} (kept : b ∈ given) :
    a = b := by
  generalize result : Except.ok a = r at h
  cases h with
  | given h =>
    cases result
    exact Option.some.inj (h.symm.trans kept)
  | told unset => cases unset.symm.trans kept

theorem Obtained.source (h : Obtained given q read es r) :
    (∃ a, given = some a ∧ r = .ok a) ∨
      ∃ (t : Nat) (answer : q.Answer), Event.asked (I := Node) t q answer ∈ es ∧
        read answer = r := by
  cases h with
  | given h => exact .inl ⟨_, h, rfl⟩
  | told => exact .inr ⟨_, _, List.mem_cons_self, rfl⟩

theorem Obtained.nodup (h : Obtained given q read es r) : (questions es).Nodup := by
  cases h with
  | given => exact List.nodup_nil
  | told => exact List.nodup_cons.mpr ⟨List.not_mem_nil, List.nodup_nil⟩

theorem Obtained.known_iff (h : Obtained given q read es r) :
    Known given q (fun answer a => read answer = .ok a) es a ↔ r = .ok a := by
  constructor
  · intro known
    cases h with
    | given h =>
      cases known with
      | given h' => rw [Option.some.inj (h.symm.trans h')]
      | told _ heard => exact absurd heard List.not_mem_nil
    | told unset =>
      cases known with
      | given h => cases unset.symm.trans h
      | told _ heard read =>
        cases List.mem_singleton.mp heard
        exact read
  · intro result
    cases h with
    | given h =>
      cases result
      exact .given h
    | told unset => exact .told unset List.mem_cons_self result

theorem Known.imp {reads reads' : q.Answer → α → Prop} (h : Known given q reads es a)
    (listed : ∀ (t : Nat) answer, Event.asked (I := Node) t q answer ∈ es →
      Event.asked (I := Node) t q answer ∈ more)
    (mono : ∀ answer, reads answer a → reads' answer a) : Known given q reads' more a := by
  cases h with
  | given h => exact .given h
  | told unset heard read => exact .told unset (listed _ _ heard) (mono _ read)

def obtaining (given : Option α) (q : NodeQuestion) (read : q.Answer → Except Failure α) :
    Task Node α :=
  match given with
  | some a => .done (I := Node) (.ok a)
  | none => .ask (I := Node) q fun answer => .done (read answer)

theorem obtained_of_leads {σ : Type} {env : Environment Node σ} {u v : Moment σ}
    (h : Program.Leads env (obtaining given q read).run u es r v) : Obtained given q read es r := by
  cases given with
  | some a =>
    obtain ⟨rfl, rfl, -⟩ := Program.leads_done.mp h
    exact .given rfl
  | none =>
    obtain ⟨rfl, rfl, -⟩ := Program.leads_ask_done.mp h
    exact .told rfl

theorem obtaining_fragile (fails : ∀ answer f, q.failure? answer = some f →
    read answer = .error f) :
    (obtaining given q read).run.Fragile := by
  cases given with
  | some a => trivial
  | none => exact Program.fragile_ask fails

theorem Obtained.known_among_iff {reads : q.Answer → α → Prop} (h : Obtained given q read es r)
    (listed : ∀ (t : Nat) answer, Event.asked (I := Node) t q answer ∈ more ↔ Event.asked
      (I := Node) t q answer ∈ es)
    (means : ∀ answer, read answer = .ok a ↔ reads answer a) : Known given q reads more a ↔
      r = .ok a :=
  ⟨fun known => h.known_iff.mp (known.imp (fun t answer => (listed t answer).mp) fun answer =>
    (means answer).mpr),
    fun result => (h.known_iff.mpr result).imp (fun t answer => (listed t answer).mpr) fun answer =>
      (means answer).mp⟩

end

/-! ## The courses of a quote -/

def scaled (m : Binary64) : Except Failure (BitVec 128) → Except Failure (BitVec 128)
  | .ok n => .ok (applyMultiplier n m)
  | .error f => .error f

/-- The sum that stands above twice the base fee, wrapped like all sums of this width. -/
def overBase (tip : BitVec 128) : Except Failure BlockFees → Except Failure (BitVec 128)
  | .ok ⟨_, some base⟩ => .ok (.ofNat 128 (base.toNat * 2) + tip)
  | .ok ⟨_, none⟩ => .error (.invalidArgument .noBaseFee)
  | .error f => .error f

theorem scaled_eq_ok {m : Binary64} {answer : Except Failure (BitVec 128)} {price : BitVec 128} :
    scaled m answer = .ok price ↔ Scales m answer price := by
  cases answer with
  | error f => exact ⟨nofun, fun ⟨_, told, _⟩ => nomatch told⟩
  | ok n =>
    constructor
    · rintro ⟨⟩
      exact ⟨n, rfl, rfl⟩
    · rintro ⟨_, ⟨⟩, rfl⟩
      rfl

theorem toNat_overBase (base : UInt64) (tip : BitVec 128) :
    (BitVec.ofNat 128 (base.toNat * 2) + tip).toNat = (2 * base.toNat + tip.toNat) % 2 ^ 128 := by
  rw [BitVec.toNat_add, BitVec.toNat_ofNat, Nat.mod_add_mod, Nat.mul_comm]

theorem overBase_eq_ok {tip ceiling : BitVec 128} {answer : Except Failure BlockFees} :
    overBase tip answer = .ok ceiling ∧ ¬ ceiling < tip ↔ Tops tip answer ceiling := by
  constructor
  · rintro ⟨told, fits⟩
    rcases answer with f | ⟨limit, base | base⟩
    · cases told
    · cases told
    · cases told
      refine ⟨limit, base, rfl, ?_⟩
      have base64 := base.toNat_lt
      have tip128 := tip.isLt
      rw [BitVec.lt_def, toNat_overBase] at fits
      rw [toNat_overBase]
      omega
  · rintro ⟨limit, base, rfl, sum⟩
    have sum_eq : .ofNat 128 (base.toNat * 2) + tip = ceiling := by
      apply BitVec.eq_of_toNat_eq
      rw [toNat_overBase, sum]
      exact Nat.mod_eq_of_lt (sum ▸ ceiling.isLt)
    refine ⟨congrArg Except.ok sum_eq, ?_⟩
    rw [BitVec.lt_def]
    omega

theorem legacyFees_eq (s : Settings) (o : Options) :
    s.legacyFees o = do
      let price ← obtaining (o.gasPrice.or s.defaultGasPrice) .gasPrice (scaled (s.multiplier o))
      return .legacy price := by
  unfold Settings.legacyFees
  cases o.gasPrice.or s.defaultGasPrice with
  | some price => rfl
  | none =>
    refine congrArg (Program.ask (I := Node) NodeQuestion.gasPrice) (funext fun answer => ?_)
    cases answer <;> rfl

theorem chooseTip_eq (s : Settings) (o : Options) :
    s.chooseTip o = obtaining o.tip .priorityFee (scaled (s.multiplier o)) := by
  unfold Settings.chooseTip
  cases o.tip with
  | some tip => rfl
  | none =>
    refine congrArg (Program.ask (I := Node) NodeQuestion.priorityFee) (funext fun answer => ?_)
    cases answer <;> rfl

theorem chooseMaxFee_eq (o : Options) (tip : BitVec 128) :
    Settings.chooseMaxFee o tip = obtaining o.maxFee .latestBlock (overBase tip) := by
  unfold Settings.chooseMaxFee
  cases o.maxFee with
  | some fee => rfl
  | none =>
    refine congrArg (Program.ask (I := Node) NodeQuestion.latestBlock) (funext fun answer => ?_)
    rcases answer with f | ⟨limit, base | base⟩ <;> rfl

def judged (tip ceiling : BitVec 128) : Except Failure Fees :=
  if ceiling < tip then .error (.invalidArgument (.feeBelowTip ceiling tip)) else .ok
    (.dynamic ceiling tip)

inductive Quoted (s : Settings) (o : Options) : List (Event Node) → Except Failure Fees → Prop
  | legacy {es : List (Event Node)} {price : Except Failure (BitVec 128)}
      (picks : Picks s o .legacy)
      (priced : Obtained (o.gasPrice.or s.defaultGasPrice) .gasPrice (scaled (s.multiplier o))
        es price) :
    Quoted s o es (price.map Fees.legacy)
  | untipped {es : List (Event Node)} {f : Failure} (picks : Picks s o .dynamic)
      (tipped : Obtained o.tip .priorityFee (scaled (s.multiplier o)) es (.error f)) :
        Quoted s o es (.error f)
  | dynamic {es₁ es₂ : List (Event Node)} {tip : BitVec 128} {ceiling : Except Failure (BitVec 128)}
      (picks : Picks s o .dynamic)
      (tipped : Obtained o.tip .priorityFee (scaled (s.multiplier o)) es₁ (.ok tip))
      (capped : Obtained o.maxFee .latestBlock (overBase tip) es₂ ceiling) :
    Quoted s o (es₁ ++ es₂) (ceiling.bind (judged tip))

section
variable {σ : Type} {env : Environment Node σ} {u v : Moment σ} {es : List (Event Node)}
  {s : Settings} {o : Options}

theorem picks_chosen (s : Settings) (o : Options) : Picks s o (s.chooseFeeModel o) := by
  unfold Settings.chooseFeeModel
  split
  next given => exact .price given
  next unpriced =>
    have unpriced := Option.not_isSome_iff_eq_none.mp unpriced
    split
    next given => exact .overrides unpriced given
    next neither =>
      obtain ⟨uncapped, untipped⟩ := not_or.mp neither
      exact .settings unpriced (Option.not_isSome_iff_eq_none.mp uncapped)
        (Option.not_isSome_iff_eq_none.mp untipped)

theorem Picks.eq_chosen {m : FeeModel} (h : Picks s o m) : m = s.chooseFeeModel o := by
  unfold Settings.chooseFeeModel
  cases h with
  | price given => rw [if_pos given]
  | overrides unpriced given => rw [unpriced, if_neg nofun, if_pos given]
  | settings unpriced uncapped untipped => simp [unpriced, uncapped, untipped]

theorem legacyFees_obtained {r : Except Failure Fees}
    (h : Program.Leads env (s.legacyFees o).run u es r v) :
    ∃ price, Obtained (o.gasPrice.or s.defaultGasPrice) .gasPrice (scaled (s.multiplier o))
      es price ∧
      r = price.map Fees.legacy := by
  rw [legacyFees_eq] at h
  rcases Program.leads_except_bind.mp h with ⟨f, priced, rfl⟩ |
    ⟨es₁, price, w, es₂, priced, rest, rfl⟩
  · exact ⟨.error f, obtained_of_leads priced, rfl⟩
  · obtain ⟨rfl, rfl, -⟩ := Program.leads_except_pure.mp rest
    rw [List.append_nil]
    exact ⟨.ok price, obtained_of_leads priced, rfl⟩

theorem resolveFees_quoted {r : Except Failure Fees} (positive : (s.multiplier o).IsPositive)
    (h : Program.Leads env (s.resolveFees o).run u es r v) : Quoted s o es r := by
  unfold Settings.resolveFees at h
  rw [if_neg (not_not_intro positive)] at h
  have picks := picks_chosen s o
  generalize s.chooseFeeModel o = model at h picks
  cases model with
  | legacy =>
    obtain ⟨price, priced, rfl⟩ := legacyFees_obtained h
    exact .legacy picks priced
  | dynamic =>
    rcases Program.leads_except_bind.mp h with ⟨f, tipped, rfl⟩ |
      ⟨es₁, tip, w, es₂, tipped, rest, rfl⟩
    · rw [chooseTip_eq] at tipped
      exact .untipped picks (obtained_of_leads tipped)
    rw [chooseTip_eq] at tipped
    have tipped := obtained_of_leads tipped
    rcases Program.leads_except_bind.mp rest with ⟨f, capped, rfl⟩ |
      ⟨es₃, ceiling, w', es₄, capped, passed, rfl⟩
    · rw [chooseMaxFee_eq] at capped
      exact .dynamic picks tipped (obtained_of_leads capped)
    rw [chooseMaxFee_eq] at capped
    have quoted : Quoted s o (es₁ ++ es₃) (judged tip ceiling) :=
      .dynamic picks tipped (obtained_of_leads capped)
    unfold judged at quoted
    split at passed
    next below =>
      obtain ⟨rfl, rfl, -⟩ := Program.leads_except_throw.mp passed
      rw [if_pos below] at quoted
      rwa [List.append_nil]
    next fits =>
      obtain ⟨rfl, rfl, -⟩ := Program.leads_except_pure.mp passed
      rw [if_neg fits] at quoted
      rwa [List.append_nil]

end

/-! ## What is said of a quote -/

/-- What fees of a positive multiplier come to. -/
structure FeeQuote (s : Settings) (o : Options) (es : List (Event Node)) (r : Except Failure Fees) :
    Prop where
  asked : ∀ q ∈ questions es, Wanted s o q
  once : (questions es).Nodup
  failed : FailsAtOnce es r
  kept : ∀ fees, r = .ok fees → Picks s o fees.model ∧ fees.Keeps o
  legacy : Picks s o .legacy → ∀ fees, r = .ok fees ↔ ∃ price, Price s o es price ∧
    fees = .legacy price
  dynamic : Picks s o .dynamic → ∀ fees, r = .ok fees ↔
    ∃ ceiling tip, Tip s o es tip ∧ Ceiling o tip es ceiling ∧ tip ≤ ceiling ∧
      fees = .dynamic ceiling tip
  baseless : ∀ (t : Nat) (limit : UInt64),
    Event.asked (I := Node) t NodeQuestion.latestBlock (.ok (ε := Failure) ⟨limit, none⟩) ∈ es →
      r = .error (.invalidArgument .noBaseFee)
  below : Picks s o .dynamic → ∀ ceiling tip, o.maxFee = some ceiling → Tip s o es tip →
    ceiling < tip →
    r = .error (.invalidArgument (.feeBelowTip ceiling tip))
  refused : ∀ f, r = .error f → (∃ e ∈ es, e.failure? = some f) ∨
    (∃ (t : Nat) (limit : UInt64),
      Event.asked (I := Node) t NodeQuestion.latestBlock (.ok (ε := Failure) ⟨limit, none⟩) ∈ es) ∨
    (∃ ceiling tip, o.maxFee = some ceiling ∧ Tip s o es tip ∧ ceiling < tip) ∨
    ∃ (t : Nat) (limit base : UInt64) (tip : BitVec 128),
      Event.asked (I := Node) t NodeQuestion.latestBlock
        (.ok (ε := Failure) ⟨limit, some base⟩) ∈ es ∧
        Tip s o es tip ∧ 2 ^ 128 ≤ 2 * base.toNat + tip.toNat

section
variable {s : Settings} {o : Options} {es : List (Event Node)} {r : Except Failure Fees}

theorem Picks.not_both (legacy : Picks s o .legacy) (dynamic : Picks s o .dynamic) : False :=
  FeeModel.noConfusion (legacy.eq_chosen.trans dynamic.eq_chosen.symm)

theorem Quoted.asked (h : Quoted s o es r) : ∀ q ∈ questions es, Wanted s o q := by
  intro q asked
  cases h with
  | legacy picks priced =>
    obtain ⟨rfl, left⟩ := priced.open_of_asked asked
    obtain ⟨unpriced, unset⟩ := Option.or_eq_none_iff.mp left
    exact .price picks unpriced unset
  | untipped picks tipped =>
    obtain ⟨rfl, left⟩ := tipped.open_of_asked asked
    exact .tip picks left
  | dynamic picks tipped capped =>
    rw [questions, List.filterMap_append] at asked
    rcases List.mem_append.mp asked with asked | asked
    · obtain ⟨rfl, left⟩ := tipped.open_of_asked asked
      exact .tip picks left
    · obtain ⟨rfl, left⟩ := capped.open_of_asked asked
      exact .block picks left

theorem Quoted.once (h : Quoted s o es r) : (questions es).Nodup := by
  cases h with
  | legacy _ priced => exact priced.nodup
  | untipped _ tipped => exact tipped.nodup
  | dynamic _ tipped capped =>
    rw [questions, List.filterMap_append]
    refine List.nodup_append.mpr ⟨tipped.nodup, capped.nodup, ?_⟩
    rintro q first _ second rfl
    exact capped.not_asked (by rw [(tipped.open_of_asked first).1]; exact NodeQuestion.noConfusion)
      second

theorem judged_eq_ok {tip ceiling : BitVec 128} {fees : Fees} :
    judged tip ceiling = .ok fees ↔ ¬ ceiling < tip ∧ fees = .dynamic ceiling tip := by
  unfold judged
  split
  next below => exact ⟨nofun, fun h => absurd below h.1⟩
  next fits => exact ⟨fun h => ⟨fits, (Except.ok.inj h).symm⟩, fun h => congrArg Except.ok h.2.symm⟩

theorem below_of_judged {tip ceiling : BitVec 128} {f : Failure}
    (h : judged tip ceiling = .error f) : ceiling < tip := by
  unfold judged at h
  split at h
  next below => exact below
  next => cases h

theorem Quoted.legacy_iff (h : Quoted s o es r) (legacy : Picks s o .legacy) (fees : Fees) :
    r = .ok fees ↔ ∃ price, Price s o es price ∧ fees = .legacy price := by
  cases h with
  | @legacy _ price _ priced =>
    have known (p : BitVec 128) : Price s o es p ↔ price = .ok p :=
      priced.known_among_iff (fun _ _ => Iff.rfl) fun _ => scaled_eq_ok
    simp only [known]
    cases price with
    | error f => simp [Except.map]
    | ok p => simp [Except.map, eq_comm]
  | untipped dynamic => exact (legacy.not_both dynamic).elim
  | dynamic dynamic => exact (legacy.not_both dynamic).elim

theorem Obtained.tip_iff {es more : List (Event Node)} {r : Except Failure (BitVec 128)}
    {tip : BitVec 128} (tipped : Obtained o.tip .priorityFee (scaled (s.multiplier o)) es r)
    (quiet : .priorityFee ∉ questions more) :
    Tip s o (es ++ more) tip ↔ r = .ok tip :=
  tipped.known_among_iff (fun _ _ => heard_left quiet) fun _ => scaled_eq_ok

theorem Obtained.ceiling_iff {es more : List (Event Node)} {r : Except Failure (BitVec 128)}
    {tip ceiling : BitVec 128} (capped : Obtained o.maxFee .latestBlock (overBase tip) es r)
    (quiet : .latestBlock ∉ questions more) :
    Ceiling o tip (more ++ es) ceiling ∧ tip ≤ ceiling ↔ r = .ok ceiling ∧ ¬ ceiling < tip := by
  rw [BitVec.not_lt]
  refine and_congr_left fun fits => ?_
  refine capped.known_among_iff (fun _ _ => heard_right quiet) fun answer =>
    ⟨fun read => ?_, fun tops => ?_⟩
  · exact overBase_eq_ok.mp ⟨read, BitVec.not_lt.mpr fits⟩
  · exact (overBase_eq_ok.mpr tops).1

theorem Quoted.dynamic_iff (h : Quoted s o es r) (dynamic : Picks s o .dynamic) (fees : Fees) :
    r = .ok fees ↔
      ∃ ceiling tip, Tip s o es tip ∧ Ceiling o tip es ceiling ∧ tip ≤ ceiling ∧
        fees = .dynamic ceiling tip := by
  cases h with
  | legacy legacy => exact (legacy.not_both dynamic).elim
  | @untipped es _ _ tipped =>
    have unknown (tip : BitVec 128) : Tip s o (es ++ []) tip ↔ _ := tipped.tip_iff List.not_mem_nil
    rw [List.append_nil] at unknown
    simp [unknown]
  | @dynamic es₁ es₂ tip ceiling _ tipped capped =>
    have known (tip' : BitVec 128) : Tip s o (es₁ ++ es₂) tip' ↔ _ :=
      tipped.tip_iff (capped.not_asked NodeQuestion.noConfusion)
    have topped (c : BitVec 128) : Ceiling o tip (es₁ ++ es₂) c ∧ _ ↔ _ :=
      capped.ceiling_iff (tipped.not_asked NodeQuestion.noConfusion)
    constructor
    · intro result
      cases ceiling with
      | error f => cases result
      | ok ceiling =>
        obtain ⟨fits, rfl⟩ := judged_eq_ok.mp result
        obtain ⟨there, le⟩ := (topped ceiling).mpr ⟨rfl, fits⟩
        exact ⟨ceiling, tip, (known tip).mpr rfl, there, le, rfl⟩
    · rintro ⟨c, tip', told, there, le, rfl⟩
      obtain rfl := Except.ok.inj ((known tip').mp told)
      obtain ⟨rfl, fits⟩ := (topped c).mp ⟨there, le⟩
      exact judged_eq_ok.mpr ⟨fits, rfl⟩

theorem Quoted.kept (h : Quoted s o es r) (fees : Fees) (result : r = .ok fees) :
    Picks s o fees.model ∧ fees.Keeps o := by
  cases h with
  | @legacy _ price picks priced =>
    cases price with
    | error f => cases result
    | ok price =>
      cases result
      refine ⟨picks, fun p given => priced.eq_of_given ?_⟩
      rw [Option.mem_def.mp given, Option.some_or]
      exact Option.mem_some_self p
  | untipped => cases result
  | @dynamic _ _ tip ceiling picks tipped capped =>
    cases ceiling with
    | error f => cases result
    | ok ceiling =>
      obtain ⟨-, rfl⟩ := judged_eq_ok.mp result
      exact ⟨picks, fun _ => capped.eq_of_given, fun _ => tipped.eq_of_given⟩

theorem Quoted.baseless (h : Quoted s o es r) (t : Nat) (limit : UInt64)
    (heard : Event.asked (I := Node) t NodeQuestion.latestBlock
      (.ok (ε := Failure) ⟨limit, none⟩) ∈ es) :
    r = .error (.invalidArgument .noBaseFee) := by
  have asked := mem_questions heard
  cases h with
  | legacy _ priced => exact absurd asked (priced.not_asked NodeQuestion.noConfusion)
  | untipped _ tipped => exact absurd asked (tipped.not_asked NodeQuestion.noConfusion)
  | dynamic _ tipped capped =>
    have later :=
      (heard_right (q := .latestBlock) (tipped.not_asked NodeQuestion.noConfusion)).mp heard
    cases capped with
    | given => exact absurd later List.not_mem_nil
    | told =>
      cases List.mem_singleton.mp later
      rfl

theorem Quoted.below (h : Quoted s o es r) (dynamic : Picks s o .dynamic) (ceiling tip : BitVec 128)
    (given : o.maxFee = some ceiling) (told : Tip s o es tip) (below : ceiling < tip) :
    r = .error (.invalidArgument (.feeBelowTip ceiling tip)) := by
  cases h with
  | legacy legacy => exact (legacy.not_both dynamic).elim
  | untipped _ tipped =>
    rw [← List.append_nil es, tipped.tip_iff List.not_mem_nil] at told
    cases told
  | dynamic _ tipped capped =>
    obtain rfl :=
      Except.ok.inj ((tipped.tip_iff (capped.not_asked NodeQuestion.noConfusion)).mp told)
    cases capped with
    | given kept =>
      cases given.symm.trans kept
      exact if_pos below
    | told unset => cases given.symm.trans unset

theorem scaled_eq_error {m : Binary64} {answer : Except Failure (BitVec 128)} {f : Failure}
    (h : scaled m answer = .error f) : answer = .error f := by
  cases answer with
  | error => exact h
  | ok => cases h

theorem Quoted.refused (h : Quoted s o es r) (f : Failure) (result : r = .error f) :
    (∃ e ∈ es, e.failure? = some f) ∨
    (∃ (t : Nat) (limit : UInt64),
      Event.asked (I := Node) t NodeQuestion.latestBlock (.ok (ε := Failure) ⟨limit, none⟩) ∈ es) ∨
    (∃ ceiling tip, o.maxFee = some ceiling ∧ Tip s o es tip ∧ ceiling < tip) ∨
    ∃ (t : Nat) (limit base : UInt64) (tip : BitVec 128),
      Event.asked (I := Node) t NodeQuestion.latestBlock
        (.ok (ε := Failure) ⟨limit, some base⟩) ∈ es ∧
        Tip s o es tip ∧ 2 ^ 128 ≤ 2 * base.toNat + tip.toNat := by
  cases h with
  | @legacy _ price picks priced =>
    cases price with
    | ok price => cases result
    | error f' =>
      cases result
      rcases priced.source with ⟨_, _, ok⟩ | ⟨t, answer, heard, fails⟩
      · cases ok
      · exact .inl ⟨_, heard, failed?_eq_some.mpr (scaled_eq_error fails)⟩
  | untipped picks tipped =>
    cases result
    rcases tipped.source with ⟨_, _, ok⟩ | ⟨t, answer, heard, fails⟩
    · cases ok
    · exact .inl ⟨_, heard, failed?_eq_some.mpr (scaled_eq_error fails)⟩
  | @dynamic es₁ es₂ tip ceiling picks tipped capped =>
    have known := (tipped.tip_iff (capped.not_asked NodeQuestion.noConfusion)).mpr rfl
    rcases capped.source with ⟨ceiling, given, rfl⟩ | ⟨t, answer, heard, rfl⟩
    · exact .inr (.inr (.inl ⟨ceiling, tip, given, known, below_of_judged result⟩))
    have heard := List.mem_append_right es₁ heard
    rcases answer with f' | ⟨limit, base | base⟩
    · exact .inl ⟨_, heard, failed?_eq_some.mpr result⟩
    · exact .inr (.inl ⟨t, limit, heard⟩)
    · refine .inr (.inr (.inr ⟨t, limit, base, tip, heard, known, ?_⟩))
      have below : _ < tip := below_of_judged result
      rw [BitVec.lt_def, toNat_overBase] at below
      omega

end

section
variable {σ : Type}

theorem scaled_fails (m : Binary64) (answer : Except Failure (BitVec 128)) (f : Failure)
    (failed : failed? answer = some f) : scaled m answer = .error f :=
  congrArg (scaled m) (failed?_eq_some.mp failed)

theorem overBase_fails (tip : BitVec 128) (answer : Except Failure BlockFees) (f : Failure)
    (failed : failed? answer = some f) : overBase tip answer = .error f :=
  congrArg (overBase tip) (failed?_eq_some.mp failed)

theorem legacyFees_fragile (s : Settings) (o : Options) : (s.legacyFees o).run.Fragile := by
  rw [legacyFees_eq]
  exact Program.Fragile.bind (obtaining_fragile (scaled_fails _)) fun _ => trivial

theorem dynamicFees_fragile (s : Settings) (o : Options) : (s.dynamicFees o).run.Fragile := by
  unfold Settings.dynamicFees
  rw [chooseTip_eq]
  refine Program.Fragile.bind (obtaining_fragile (scaled_fails _)) fun tip => ?_
  rw [chooseMaxFee_eq]
  refine Program.Fragile.bind (obtaining_fragile (overBase_fails tip)) fun ceiling => ?_
  split <;> trivial

theorem resolveFees_refused {s : Settings} {o : Options} (refused : ¬ (s.multiplier o).IsPositive) :
    (s.resolveFees o).run = .done (.error (.invalidArgument (.multiplier (s.multiplier o)))) := by
  unfold Settings.resolveFees
  rw [if_pos refused]
  rfl

theorem resolveFees_fragile (s : Settings) (o : Options) : (s.resolveFees o).run.Fragile := by
  by_cases positive : (s.multiplier o).IsPositive
  · unfold Settings.resolveFees
    rw [if_neg (not_not_intro positive)]
    cases s.chooseFeeModel o with
    | legacy => exact legacyFees_fragile s o
    | dynamic => exact dynamicFees_fragile s o
  · rw [resolveFees_refused positive]
    trivial

/-- Fees are refused at once for a multiplier that is not positive. Else they follow the overrides,
and what is left open follows the node. -/
theorem fees_are_resolved (env : Environment Node σ) (s : Settings) (o : Options) (t : Nat)
    (st : σ) :
    let quote := (s.resolveFees o).run.run env t st
    (¬ (o.multiplier.getD s.gasPriceMultiplier).IsPositive →
      quote.events = [] ∧
        quote.result =
          .error (.invalidArgument (.multiplier (o.multiplier.getD s.gasPriceMultiplier)))) ∧
      ((o.multiplier.getD s.gasPriceMultiplier).IsPositive →
        FeeQuote s o quote.events quote.result) := by
  have course := Program.leads_run env (s.resolveFees o).run ⟨t, st⟩
  refine ⟨fun refused => ?_, fun positive => ?_⟩
  · rw [resolveFees_refused refused]
    exact ⟨rfl, rfl⟩
  · have quoted := resolveFees_quoted positive course
    exact ⟨quoted.asked, quoted.once, course.failsAtOnce (resolveFees_fragile s o), quoted.kept,
      quoted.legacy_iff,
      quoted.dynamic_iff, quoted.baseless, quoted.below, quoted.refused⟩

end

end Dispatch
