import GameClient.Transport.Memory
import Mathlib.Data.List.Forall2

/-! # Transports that do not look into frames

Two transports are alike if nothing that is asked of them tells them apart, not even when the frames
that are handed to one have other bytes than those handed to the other. A transport is oblivious if
it is alike to itself: its answers depend on which requests are made and not on what is in a frame. -/

namespace GameClient

namespace Transport

inductive Request where
  | connect
  | send (frame : Bytes)
  | disconnect

/-- The same request, but for the bytes of a frame. -/
inductive Request.Similar : Request → Request → Prop
  | connect : Similar connect connect
  | send {frame frame' : Bytes} : frame.length = frame'.length → Similar (send frame) (send frame')
  | disconnect : Similar disconnect disconnect

variable {τ : Type} [Transport τ]

/-- What comes back, which is an answer and the events that are reported, and the transport. -/
def serve (t : τ) : Request → (Option Answer × List Event) × τ
  | .connect => ((some (connect t).1, (connect t).2.1), (connect t).2.2)
  | .send frame => ((some (send frame t).1, []), (send frame t).2)
  | .disconnect => ((none, []), disconnect t)

/-- What comes back from requests that are made one after the other. -/
def replies : τ → List Request → List (Option Answer × List Event)
  | _, [] => []
  | t, request :: rest => (serve t request).1 :: replies (serve t request).2 rest

/-- Similar requests bring the same back. -/
def Alike (t t' : τ) : Prop :=
  ∀ requests requests', List.Forall₂ Request.Similar requests requests' →
    replies t requests = replies t' requests'

/-- The answers do not depend on what is in the frames. -/
def Oblivious (τ : Type) [Transport τ] : Prop := ∀ t : τ, Alike t t

namespace Alike

variable {t t' : τ}

theorem serve (h : Alike t t') {request request' : Request}
    (similar : request.Similar request') :
    (serve t request).1 = (Transport.serve t' request').1 ∧
      Alike (Transport.serve t request).2 (Transport.serve t' request').2 := by
  constructor
  · exact (List.cons.inj (h [request] [request'] (.cons similar .nil))).1
  · intro requests requests' rest
    exact (List.cons.inj (h _ _ (.cons similar rest))).2

theorem connect (h : Alike t t') :
    (Transport.connect t).1 = (Transport.connect t').1 ∧
      (Transport.connect t).2.1 = (Transport.connect t').2.1 ∧
      Alike (Transport.connect t).2.2 (Transport.connect t').2.2 := by
  obtain ⟨same, alike⟩ := h.serve .connect
  obtain ⟨answer, events⟩ := Prod.mk.inj same
  exact ⟨Option.some.inj answer, events, alike⟩

theorem send (h : Alike t t') {frame frame' : Bytes} (length : frame.length = frame'.length) :
    (Transport.send frame t).1 = (Transport.send frame' t').1 ∧
      Alike (Transport.send frame t).2 (Transport.send frame' t').2 := by
  obtain ⟨same, alike⟩ := h.serve (.send length)
  exact ⟨Option.some.inj (Prod.mk.inj same).1, alike⟩

theorem disconnect (h : Alike t t') :
    Alike (Transport.disconnect t) (Transport.disconnect t') :=
  (h.serve .disconnect).2

/-- Transports are alike if they are related in a way that every request keeps. -/
theorem of_related {R : τ → τ → Prop}
    (kept : ∀ t t' request request', R t t' → Request.Similar request request' →
      (Transport.serve t request).1 = (Transport.serve t' request').1 ∧
        R (Transport.serve t request).2 (Transport.serve t' request').2)
    (h : R t t') : Alike t t' := by
  intro requests requests' similar
  induction similar generalizing t t' with
  | nil => rfl
  | cons first _ ih =>
    obtain ⟨same, related⟩ := kept _ _ _ _ h first
    rw [replies, replies, same, ih related]

end Alike

end Transport

/-- The frames that a transport in memory has recorded do not show. -/
theorem Memory.alike (m : Memory) (sent : Array Bytes) : Transport.Alike m { m with sent } := by
  refine Transport.Alike.of_related (R := fun m m' => m' = { m with sent := m'.sent }) ?_ rfl
  rintro m m' request request' same similar
  rw [same]
  cases similar with
  | connect => exact ⟨rfl, rfl⟩
  | disconnect => exact ⟨rfl, rfl⟩
  | @send frame frame' _ =>
    simp only [Transport.serve, Transport.send, send]
    split
    · exact ⟨rfl, rfl⟩
    · split
      · exact ⟨rfl, rfl⟩
      · exact ⟨rfl, rfl⟩

theorem Memory.oblivious : Transport.Oblivious Memory := fun m => m.alike m.sent

end GameClient
