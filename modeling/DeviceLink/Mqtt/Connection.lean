import DeviceLink.Mqtt.Code
import DeviceLink.Mqtt.Config
/-!
# What a connection does

The calls a connection takes and the signals it gives. Every handler is registered under a
receiver, and a delivery is a signal with the receiver it goes to; who the receivers are is up
to the user of the connection. Two connections implement `Backend`: the simulated one and the
one that talks to a broker.
-/

namespace DeviceLink.Mqtt

/-- A message that the broker passes on. -/
structure Message where
  topic : String
  payload : List UInt8
  dup : Bool
  qos : Qos
  retain : Bool
  deriving DecidableEq, Repr

/-- What a connection tells the receiver of a handler. -/
inductive Signal
  | completed (code : Int) (returnCode : ReturnCode) (sessionPresent : Bool)
  | closed
  | interrupted (code : Int)
  | resumed (returnCode : ReturnCode) (sessionPresent : Bool)
  | message (m : Message)
  | subscribed (id : Nat) (topic : String) (granted : Qos) (code : Int)
  | subscribedMany (id : Nat) (topics : List String) (granted : Qos) (code : Int)
  | unsubscribed (id : Nat) (code : Int)
  | published (id : Nat) (code : Int)
  deriving DecidableEq, Repr

/-- What an accepted operation waits to be told. -/
inductive Completion
  | subscribe (topic : String)
  | subscribeMany (topics : List String)
  | unsubscribe
  | publish
  deriving DecidableEq, Repr

/-- The signal that completes an operation. -/
def Completion.signal (c : Completion) (id : Nat) (granted : Qos) (code : Int) : Signal :=
  match c with
  | subscribe topic => .subscribed id topic granted code
  | subscribeMany topics => .subscribedMany id topics granted code
  | unsubscribe => .unsubscribed id code
  | publish => .published id code

/-- A signal and the receiver it goes to. -/
structure Delivery (ρ : Type) where
  receiver : ρ
  signal : Signal
  deriving DecidableEq, Repr

/-- The receivers of the four lifecycle signals; a slot may be empty. -/
structure Lifecycle (ρ : Type) where
  completed : Option ρ := none
  closed : Option ρ := none
  interrupted : Option ρ := none
  resumed : Option ρ := none
  deriving DecidableEq, Repr

/-- One receiver in all four slots. -/
def Lifecycle.all {ρ : Type} (receiver : ρ) : Lifecycle ρ :=
  { completed := some receiver
    closed := some receiver
    interrupted := some receiver
    resumed := some receiver }

/-- A signal for the receiver of a slot, if it has one. -/
def deliver {ρ : Type} (slot : Option ρ) (signal : Signal) : List (Delivery ρ) :=
  (slot.map fun receiver => ⟨receiver, signal⟩).toList

theorem receiver_of_deliver {ρ : Type} {slot : Option ρ} {signal : Signal} {d : Delivery ρ}
    (h : d ∈ deliver slot signal) : d.receiver ∈ slot.toList := by
  cases slot with
  | none => cases h
  | some r => rw [List.mem_singleton.1 h]; exact List.mem_singleton_self r

/-- The id after another one: ids run from 1 to 65535 and start over. -/
def nextId (id : Nat) : Nat := id % 65535 + 1

/-- A connection as its user sees it. An operation answers the id of the request it started,
or nothing if it was refused at once; `lastError` then says why. -/
class Backend (σ : Type → Type) where
  setHandlers {ρ : Type} : σ ρ → Lifecycle ρ → σ ρ
  connect {ρ : Type} : σ ρ → ConnectOptions → σ ρ × Bool
  subscribe {ρ : Type} : σ ρ → (topic : String) → Qos → (onMessage onAck : ρ) →
    σ ρ × Option Nat
  subscribeMany {ρ : Type} : σ ρ → (topics : List (String × ρ)) → Qos → (onAck : ρ) →
    σ ρ × Option Nat
  unsubscribe {ρ : Type} : σ ρ → (topic : String) → (onAck : ρ) → σ ρ × Option Nat
  publish {ρ : Type} : σ ρ → (topic : String) → Qos → (retain : Bool) →
    (payload : List UInt8) → (onAck : ρ) → σ ρ × Option Nat
  disconnect {ρ : Type} : σ ρ → σ ρ × Bool
  lastError {ρ : Type} : σ ρ → Int

end DeviceLink.Mqtt
