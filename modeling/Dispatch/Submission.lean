import Dispatch.Fees
import Dispatch.Nonces
import Dispatch.Retry
import Dispatch.Simulation
import Dispatch.Waiting

/-!
# From a call to a mined transaction

A submission simulates a call, resolves chain, fees and nonce, hands the draft to a wallet, and
waits for the receipt and the blocks on top of it. The node and the wallet are asked through one
interface, the desk, so a run shows every question to either.
-/

set_option autoImplicit false

namespace Dispatch

inductive DeskQuestion where
  | node (q : NodeQuestion)
  | send (tx : Draft) (hints : Hints)
  | wait (handle : Handle) (bounds : WaitBounds)

def DeskQuestion.Answer : DeskQuestion → Type
  | .node q => q.Answer
  | .send _ _ => Except Failure Handle
  | .wait _ _ => Except Failure Receipt

def Desk : Interface := ⟨DeskQuestion, DeskQuestion.Answer⟩

def Program.atDesk {α : Type} (p : Program Node α) : Program Desk α :=
  p.rephrase (J := Desk) DeskQuestion.node fun _ a => a

structure Dispatcher where
  account : Address
  settings : Settings
  nonceSource : NonceSource

/-- What one submission leaves for the next: the chain once it is known, and counted nonces. -/
structure Memory where
  chainId : Option UInt64
  counters : Counters

abbrev Step (α : Type) := ExceptT Failure (StateT Memory (Program Desk)) α

namespace Dispatcher

variable (d : Dispatcher)

def consult {α : Type} (p : Program Node α) : Step α :=
  ExceptT.lift (StateT.lift p.atDesk)

def attempt {α : Type} (p : Task Node α) : Step α :=
  ExceptT.mk (StateT.lift (Program.atDesk (ExceptT.run p)))

def send (tx : Draft) (hints : Hints) : Step Handle :=
  ExceptT.mk (StateT.lift (.ask (.send tx hints) .done))

def wait (handle : Handle) (bounds : WaitBounds) : Step Receipt :=
  ExceptT.mk (StateT.lift (.ask (.wait handle bounds) .done))

def resolveChain : Step UInt64 := do
  match (← get).chainId with
  | some id => return id
  | none =>
    let id ← attempt Node.chainId
    modify fun m => { m with chainId := some id }
    return id

def checkBalance (required : BitVec 256) : Step Unit := do
  let available ← attempt (Node.balance d.account)
  if available < required then throw (.insufficientBalance d.account required available)

def takeNonce (o : Options) : Step UInt64 := do
  match o.nonce with
  | some nonce => return nonce
  | none =>
    ExceptT.mk fun m => do
      let (result, counters) ← ((d.nonceSource.next d.account).run m.counters).atDesk
      return (result, { m with counters })

def releaseNonce (o : Options) (nonce : UInt64) : Step Unit := do
  if o.nonce.isNone then
    modify fun m => { m with counters := d.nonceSource.release d.account nonce m.counters }

/-- Takes a nonce, completes the draft with it and hands it to the wallet. A nonce whose transaction
was not accepted is handed back. -/
def sendDraft (tx : Draft) (o : Options) (hints : Hints) : Step Handle := do
  let nonce ← d.takeNonce o
  tryCatch (send { tx with nonce } hints) fun failure => do
    d.releaseNonce o nonce
    throw failure

def bounds (o : Options) : WaitBounds :=
  { blocksToWait := o.blocksToWait.getD d.settings.blocksToWait
    timeout := o.timeout.getD d.settings.maxWaiting
    pollInterval := d.settings.pollInterval }

/-- Waits for the receipt and, if it is a success, for confirmations within the same time. -/
def awaitReceipt (o : Options) (handle : Handle) : Step Receipt := do
  let started ← consult Program.now
  let receipt ← wait handle (d.bounds o)
  if receipt.success ∧ 0 < o.confirmationBlocks then
    let elapsed ← consult (Program.since started)
    attempt (waitForConfirmations receipt o.confirmationBlocks
      ((d.bounds o).remainingAfter elapsed))
  return receipt

def hints (call : Call) (o : Options) : Hints :=
  { multiplier := o.multiplier, priority := o.priority, operation := call.operation
    metadata := o.metadata }

def gasOverride (call : Call) (o : Options) : Option UInt64 := o.gasLimit.or call.gasLimit

def deliver (call : Call) (o : Options) (dryRun : Option DryRun) (tx : Draft) : Step Outcome := do
  let handle ← d.sendDraft tx o (hints call o)
  if o.waitFor then
    let receipt ← d.awaitReceipt o handle
    ExceptT.mk (pure (Outcome.make dryRun (some handle) (some receipt)))
  else
    ExceptT.mk (pure (Outcome.make dryRun (some handle) none))

def draft (call : Call) (o : Options) (dryRun : Option DryRun) (chainId : UInt64) (fees : Fees) :
    Draft :=
  { sender := d.account, recipient := call.recipient, value := call.value, data := call.data
    gasLimit := d.settings.resolveGasLimit (gasOverride call o) dryRun call.operation
    nonce := 0, chainId, fees }

/-- Sends a call whose dry run, if there was one, allows it. The chain and the fees may be asked for
at once: that comes to what asking one after the other comes to. -/
def proceed (call : Call) (o : Options) (dryRun : Option DryRun) : Step Outcome := do
  let chainId ← resolveChain
  let fees ← attempt (d.settings.resolveFees o)
  let tx := d.draft call o dryRun chainId fees
  if d.settings.checkBalance then d.checkBalance tx.maxCost
  d.deliver call o dryRun tx

def dryRun (call : Call) (gas : Option UInt64) : Program Node DryRun :=
  (Simulator.ofSettings d.settings).run call d.account gas

/-- Whether no dry run is made. A request for nothing but a dry run wins over the settings. -/
def skipsDryRun (o : Options) : Bool :=
  !o.dryRunOnly && (o.skipDryRun || d.settings.disableDryRun)

def blocks (o : Options) : Option DryRun → Bool
  | some dryRun => !dryRun.isSuccess && !o.forceSend
  | none => false

def perform (call : Call) (o : Options) : Step Outcome := do
  if o.dryRunOnly ∧ o.skipDryRun then throw (.invalidArgument .onlyAndWithoutDryRun)
  let dryRun ←
    if d.skipsDryRun o then pure none
    else some <$> consult (d.dryRun call (gasOverride call o))
  if o.dryRunOnly ∨ blocks o dryRun then ExceptT.mk (pure (Outcome.make dryRun none none))
  else d.proceed call o dryRun

/-- Unless the options say otherwise, a result that amounts to a failure is one. -/
def judge (o : Options) (outcome : Outcome) : Except Failure Outcome :=
  if o.raiseForStatus then
    match outcome.failure? with
    | some failure => .error failure
    | none => .ok outcome
  else .ok outcome

def submit (call : Call) (o : Options) : Step Outcome := do
  let outcome ← d.perform call o
  ExceptT.mk (pure (judge o outcome))

/-- Repeats a submission; each attempt resolves dry run, fees and nonce again. -/
def submitWithRetry (call : Call) (o : Options) (policy : RetryPolicy) : Step Outcome :=
  ExceptT.mk (retry policy (ExceptT.run (d.submit call o)))

end Dispatcher

end Dispatch
