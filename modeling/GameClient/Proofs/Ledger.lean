import GameClient.Proofs.Agreement
import Mathlib.Data.List.Induction
import Mathlib.Data.List.TakeWhile

/-! # The ledger of a link in memory

A link in memory is held by any number of handles, and whatever is done through one of them is done
to the link. The ledger of a link has all that was done to it, with the answers. It alone tells what
the answers were, which frames are with whom, and what the receiver of the events has heard. -/

namespace GameClient

namespace Memory

inductive Act where
  | connect
  | send (frame : Bytes)
  | disconnect
  | undergo (deed : Deed)
  /-- The receiver of the events goes away. -/
  | deafen
deriving DecidableEq

inductive Reply where
  | nothing
  | answered (answer : Answer)
  | drained (frames : Array Bytes)
deriving DecidableEq

structure Entry where
  act : Act
  reply : Reply
deriving DecidableEq

def acts (ledger : List Entry) : List Act := ledger.map (·.act)

theorem acts_concat (ledger : List Entry) (entry : Entry) :
    acts (ledger ++ [entry]) = acts ledger ++ [entry.act] := List.map_append

/-! ## What a ledger tells -/

/-- The value that was set last. -/
def setting (set? : Act → Option Bool) (past : List Act) : Bool :=
  (past.filterMap set?).getLast?.getD false

theorem setting_concat (set? : Act → Option Bool) (past : List Act) (act : Act) :
    setting set? (past ++ [act]) = (set? act).getD (setting set? past) := by
  rw [setting, List.filterMap_append]
  cases set : set? act with
  | none => simp [set, setting]
  | some on => simp [set]

def failSetting? : Act → Option Bool
  | .undergo (.failSends fail) => some fail
  | _ => none

def refuseSetting? : Act → Option Bool
  | .undergo (.refuseConnects refuse) => some refuse
  | _ => none

def failing (past : List Act) : Bool := setting failSetting? past

def refusing (past : List Act) : Bool := setting refuseSetting? past

def movesLink : Act → Bool
  | .connect | .disconnect | .undergo .dropLink => true
  | _ => false

/-- What moved the link last is a connect call that was not refused. -/
def IsUp (past : List Act) : Prop :=
  ∃ before after, past = before ++ .connect :: after ∧ refusing before = false ∧
    ∀ act ∈ after, movesLink act = false

theorem not_isUp_nil : ¬ IsUp [] := by
  rintro ⟨before, after, split, -⟩
  exact List.append_ne_nil_of_right_ne_nil before (List.cons_ne_nil _ after) split.symm

theorem isUp_concat (past : List Act) (act : Act) :
    IsUp (past ++ [act]) ↔
      act = .connect ∧ refusing past = false ∨ movesLink act = false ∧ IsUp past := by
  constructor
  · rintro ⟨before, after, split, accepted, still⟩
    -- The last act is the call that made the link, or it comes after that call and left it alone.
    induction after using List.reverseRecOn with
    | nil =>
      obtain ⟨rfl, same⟩ := List.append_inj' split rfl
      exact .inl ⟨List.head_eq_of_cons_eq same, accepted⟩
    | append_singleton after last =>
      rw [← List.cons_append, ← List.append_assoc] at split
      obtain ⟨earlier, same⟩ := List.append_inj' split rfl
      obtain rfl := List.head_eq_of_cons_eq same
      refine .inr ⟨still act (List.mem_concat_self), before, after, earlier, accepted, ?_⟩
      exact fun act h => still act (List.mem_append_left _ h)
  · rintro (⟨rfl, accepted⟩ | ⟨apart, before, after, rfl, accepted, still⟩)
    · exact ⟨past, [], rfl, accepted, by simp⟩
    · refine ⟨before, after ++ [act], by rw [List.append_assoc, List.cons_append], accepted, ?_⟩
      intro act' h
      obtain h | h := List.mem_append.mp h
      · exact still act' h
      · rwa [List.mem_singleton.mp h]

/-- The answer to a send, by what was done before. -/
structure Answered (past : List Act) (answer : Answer) : Prop where
  accepted_iff : answer = .accepted ↔ IsUp past ∧ failing past = false
  notConnected_iff : answer = .refused .notConnected ↔ ¬ IsUp past
  closed_iff : answer = .refused .closed ↔ IsUp past ∧ failing past = true

/-- A send is answered by what was done before. -/
def Settles (past : List Entry) (entry : Entry) : Prop :=
  ∀ frame, entry.act = .send frame →
    ∃ answer, entry.reply = .answered answer ∧ Answered (acts past) answer

def accepted : Entry → List Bytes
  | ⟨.send frame, .answered .accepted⟩ => [frame]
  | _ => []

def drained : Entry → List Bytes
  | ⟨_, .drained frames⟩ => frames.toList
  | _ => []

def event? (refuses : Bool) : Act → Option Event
  | .connect => some (if refuses then .disconnected else .connected)
  | .undergo .dropLink => some .disconnected
  | _ => none

/-- What is reported of further acts. -/
def newsAfter : List Act → List Act → List Event
  | _, [] => []
  | past, act :: rest => (event? (refusing past) act).toList ++ newsAfter (past ++ [act]) rest

theorem newsAfter_concat (past rest : List Act) (act : Act) :
    newsAfter past (rest ++ [act]) =
      newsAfter past rest ++ (event? (refusing (past ++ rest)) act).toList := by
  induction rest generalizing past with
  | nil => simp [newsAfter]
  | cons first rest ih => simp [newsAfter, ih]

/-- What was done while somebody heard the events. -/
def listened (past : List Act) : List Act := past.takeWhile (· ≠ .deafen)

theorem listened_append_of_not_mem {past : List Act} (h : .deafen ∉ past) (rest : List Act) :
    listened (past ++ rest) = past ++ listened rest :=
  List.takeWhile_append_of_pos fun _ mem => decide_eq_true (ne_of_mem_of_not_mem mem h)

theorem listened_of_not_mem {past : List Act} (h : .deafen ∉ past) : listened past = past :=
  List.takeWhile_eq_self_iff.mpr fun _ mem => decide_eq_true (ne_of_mem_of_not_mem mem h)

theorem listened_append_of_mem {past : List Act} (h : .deafen ∈ past) (rest : List Act) :
    listened (past ++ rest) = listened past := by
  obtain ⟨before, after, rfl, fresh⟩ := List.eq_append_cons_of_mem h
  have stops (rest : List Act) : listened (before ++ .deafen :: rest) = before := by
    rw [listened_append_of_not_mem fresh]
    exact List.append_nil _
  rw [List.append_assoc, List.cons_append, stops, stops]

theorem newsAfter_listened_concat (past : List Act) (act : Act) :
    newsAfter [] (listened (past ++ [act])) =
      if .deafen ∈ past then newsAfter [] (listened past)
      else newsAfter [] (listened past) ++ (event? (refusing past) act).toList := by
  split
  next deaf => rw [listened_append_of_mem deaf]
  next hears =>
    rw [listened_append_of_not_mem hears, listened_of_not_mem hears]
    by_cases last : act = .deafen
    · rw [last]
      simp [listened, event?]
    · have heard : listened [act] = [act] := by simp [listened, last]
      rw [heard, newsAfter_concat, List.nil_append]

/-! ## Links -/

theorem send_cases (frame : Bytes) (m : Memory) :
    (m.isUp = false ∧ m.send frame = (.refused .notConnected, m)) ∨
    (m.isUp = true ∧ m.failsSends = true ∧ m.send frame = (.refused .closed, m)) ∨
    (m.isUp = true ∧ m.failsSends = false ∧
      m.send frame = (.accepted, { m with sent := m.sent.push frame })) := by
  unfold send
  cases up : m.isUp with
  | false => exact .inl ⟨rfl, rfl⟩
  | true =>
    cases fails : m.failsSends with
    | true => exact .inr (.inl ⟨rfl, rfl, rfl⟩)
    | false => exact .inr (.inr ⟨rfl, rfl, rfl⟩)

/-- A link and the receiver of its events. -/
structure Link where
  memory : Memory
  isHeard : Bool := true
  heard : List Event := []

namespace Link

def become (l : Link) (events : List Event) (memory : Memory) : Link :=
  { l with memory, heard := if l.isHeard then l.heard ++ events else l.heard }

def perform (l : Link) : Act → Link
  | .connect => l.become l.memory.connect.2.1 l.memory.connect.2.2
  | .send frame => l.become [] (l.memory.send frame).2
  | .disconnect => l.become [] l.memory.disconnect
  | .undergo deed => l.become (l.memory.undergo deed).1 (l.memory.undergo deed).2
  | .deafen => { l with isHeard := false }

def reply (l : Link) : Act → Reply
  | .connect => .answered l.memory.connect.1
  | .send frame => .answered (l.memory.send frame).1
  | .undergo .drain => .drained l.memory.drain.1
  | _ => .nothing

/-- The link after an act, but for its frames. -/
theorem memory_perform (l : Link) (act : Act) :
    (l.perform act).memory =
      { l.memory with
        isUp := if act = .connect then !l.memory.refusesConnects
          else !movesLink act && l.memory.isUp
        connects := l.memory.connects + UInt32.ofNat ([act].count .connect)
        failsSends := (failSetting? act).getD l.memory.failsSends
        refusesConnects := (refuseSetting? act).getD l.memory.refusesConnects
        sent := (l.perform act).memory.sent } := by
  cases act with
  | send frame =>
    obtain ⟨sent, kept⟩ := exists_send frame l.memory
    simp [perform, become, kept, movesLink, failSetting?, refuseSetting?]
  | undergo deed =>
    cases deed <;>
      simp [perform, become, undergo, dropLink, drain, movesLink, failSetting?, refuseSetting?]
  | connect | disconnect | deafen =>
    simp [perform, become, Memory.connect, Memory.disconnect, movesLink, failSetting?,
      refuseSetting?]

theorem isHeard_perform (l : Link) (act : Act) :
    (l.perform act).isHeard = true ↔ act ≠ .deafen ∧ l.isHeard = true := by
  cases act <;> simp [perform, become]

theorem heard_report (l : Link) (event : Event) (memory : Memory) :
    (l.become (l.memory.report event) memory).heard =
      if l.isHeard = true ∧ l.memory.reports = true then l.heard ++ [event] else l.heard := by
  unfold become report
  cases l.isHeard <;> cases l.memory.reports <;> simp

theorem heard_perform (l : Link) (act : Act) :
    (l.perform act).heard = if l.isHeard = true ∧ l.memory.reports = true then
      l.heard ++ (event? l.memory.refusesConnects act).toList else l.heard := by
  cases act with
  | connect => exact heard_report l _ _
  | undergo deed =>
    cases deed with
    | dropLink => exact heard_report l _ _
    | _ => simp [perform, become, undergo, event?]
  | _ => simp [perform, become, event?]

/-- No frame is lost or doubled: what an act gives back and leaves is what was there and what it
brings. -/
theorem frames_perform (l : Link) (act : Act) :
    drained ⟨act, l.reply act⟩ ++ (l.perform act).memory.sent.toList =
      l.memory.sent.toList ++ accepted ⟨act, l.reply act⟩ := by
  cases act with
  | send frame =>
    obtain ⟨-, kept⟩ | ⟨-, -, kept⟩ | ⟨-, -, kept⟩ := send_cases frame l.memory <;>
      simp [drained, accepted, reply, perform, become, kept]
  | undergo deed =>
    cases deed <;> simp [drained, accepted, reply, perform, become, undergo, Memory.dropLink, drain]
  | connect | disconnect | deafen =>
    simp [drained, accepted, reply, perform, become, Memory.connect, Memory.disconnect]

end Link

/-! ## Ledgers and links -/

/-- What a ledger tells of a link. -/
structure Balanced (ledger : List Entry) (l : Link) : Prop where
  answers : Along Settles [] ledger
  frames : ledger.flatMap drained ++ l.memory.sent.toList = ledger.flatMap accepted
  /-- The counter is a word of 32 bits, and counts as one. -/
  connects : l.memory.connects = UInt32.ofNat ((acts ledger).count .connect)
  heard : l.heard = if l.memory.reports then newsAfter [] (listened (acts ledger)) else []

/-- A ledger also tells where the link is now, and so what the next act does. -/
structure Kept (ledger : List Entry) (l : Link) : Prop extends Balanced ledger l where
  up : l.memory.isUp = true ↔ IsUp (acts ledger)
  fails : l.memory.failsSends = failing (acts ledger)
  refuses : l.memory.refusesConnects = refusing (acts ledger)
  isHeard : l.isHeard = true ↔ .deafen ∉ acts ledger

namespace Kept

variable {ledger : List Entry} {l : Link}

theorem new (reports : Bool) : Kept [] { memory := { reports } } where
  up := ⟨Bool.noConfusion, fun up => absurd up not_isUp_nil⟩
  fails := rfl
  refuses := rfl
  isHeard := ⟨fun _ => List.not_mem_nil, fun _ => rfl⟩
  answers := trivial
  frames := rfl
  connects := rfl
  heard := (ite_self _).symm

theorem answered (h : Kept ledger l) (frame : Bytes) :
    Answered (acts ledger) (l.memory.send frame).1 := by
  obtain ⟨down, kept⟩ | ⟨up, fails, kept⟩ | ⟨up, takes, kept⟩ := send_cases frame l.memory
  · constructor <;> simp [kept, ← h.up, ← h.fails, down]
  · constructor <;> simp [kept, ← h.up, ← h.fails, up, fails]
  · constructor <;> simp [kept, ← h.up, ← h.fails, up, takes]

theorem more (h : Kept ledger l) (act : Act) :
    Kept (ledger ++ [⟨act, l.reply act⟩]) (l.perform act) where
  up := by
    rw [acts_concat, isUp_concat, l.memory_perform act, ← h.up, ← h.refuses]
    by_cases asked : act = .connect
    · simp [asked, movesLink]
    · simp [asked]
  fails := by
    rw [acts_concat, failing, setting_concat, l.memory_perform act, h.fails, failing]
  refuses := by
    rw [acts_concat, refusing, setting_concat, l.memory_perform act, h.refuses, refusing]
  isHeard := by
    rw [acts_concat, l.isHeard_perform, h.isHeard, List.mem_append, List.mem_singleton, not_or,
      and_comm, ne_comm]
  answers := by
    refine h.answers.append ⟨?_, trivial⟩
    rintro frame rfl
    exact ⟨_, rfl, h.answered frame⟩
  frames := by
    have conserved := l.frames_perform act
    simp [← h.frames, conserved]
  connects := by
    rw [acts_concat, List.count_append, UInt32.ofNat_add, l.memory_perform act, h.connects]
  heard := by
    rw [acts_concat, newsAfter_listened_concat, l.heard_perform, l.memory_perform act, h.heard]
    by_cases deaf : .deafen ∈ acts ledger
    · have quiet : ¬ l.isHeard = true := fun hears => h.isHeard.mp hears deaf
      simp [deaf, quiet]
    · have hears : l.isHeard = true := h.isHeard.mpr deaf
      cases l.memory.reports <;> simp [deaf, hears, h.refuses]

end Kept

/-! ## Handles -/

/-- Links, and handles that lead to their places. -/
structure Bench where
  links : List Link := []
  handles : List Nat := []

inductive Op where
  | create (reports : Bool)
  /-- One more handle of a link. -/
  | clone (handle : Nat)
  | act (handle : Nat) (act : Act)
deriving DecidableEq

namespace Bench

def step (b : Bench) : Op → Bench
  | .create reports =>
    { links := b.links ++ [{ memory := { reports } }], handles := b.handles ++ [b.links.length] }
  | .clone handle => { b with handles := b.handles ++ b.handles[handle]?.toList }
  | .act handle act =>
    match b.handles[handle]? with
    | some place => { b with links := b.links.modify place (·.perform act) }
    | none => b

def after (b : Bench) (ops : List Op) : Bench := ops.foldl step b

/-- What an operation adds to the ledger of the link at a place. -/
def added? (b : Bench) (place : Nat) : Op → Option Entry
  | .act handle act =>
    if b.handles[handle]? = some place then b.links[place]?.map fun link => ⟨act, link.reply act⟩
    else none
  | _ => none

/-- All that was done to the link at a place, through whichever handle. -/
def ledger (b : Bench) (place : Nat) : List Op → List Entry
  | [] => []
  | op :: rest => (b.added? place op).toList ++ (b.step op).ledger place rest

/-- Each link keeps its ledger, and no other place has one. -/
structure Sound (b : Bench) (ledgers : Nat → List Entry) : Prop where
  kept : ∀ place link, b.links[place]? = some link → Kept (ledgers place) link
  vacant : ∀ place, b.links[place]? = none → ledgers place = []

theorem Sound.create {b : Bench} {ledgers : Nat → List Entry} (h : Sound b ledgers)
    (reports : Bool) : Sound (b.step (.create reports)) ledgers where
  kept place link found := by
    rw [Bench.step, List.getElem?_append] at found
    split at found
    next old => exact h.kept place link found
    next outside =>
      -- Nothing was done yet to the link that is created.
      obtain rfl := List.mem_singleton.mp (List.mem_of_getElem? found)
      rw [h.vacant place (List.getElem?_eq_none (Nat.le_of_not_lt outside))]
      exact Kept.new reports
  vacant place none := by
    rw [Bench.step, List.getElem?_eq_none_iff, List.length_append] at none
    exact h.vacant place (List.getElem?_eq_none (Nat.le_of_add_right_le none))

/-- Only the link that the handle leads to is touched. -/
theorem getElem?_act (b : Bench) (place handle : Nat) (act : Act) :
    (b.step (.act handle act)).links[place]? =
      b.links[place]?.map fun link =>
        if b.handles[handle]? = some place then link.perform act else link := by
  rw [Bench.step]
  cases b.handles[handle]? with
  | none => simp
  | some target =>
    simp only [List.getElem?_modify, Option.some.injEq]
    split <;> simp

theorem Sound.act {b : Bench} {ledgers : Nat → List Entry} (h : Sound b ledgers) (handle : Nat)
    (act : Act) : Sound (b.step (.act handle act))
      fun place => ledgers place ++ (b.added? place (.act handle act)).toList where
  kept place link found := by
    rw [getElem?_act] at found
    obtain ⟨old, there, rfl⟩ := Option.map_eq_some_iff.mp found
    have kept := h.kept place old there
    rw [added?, there]
    split
    · exact kept.more act
    · rwa [Option.toList_none, List.append_nil]
  vacant place none := by
    rw [getElem?_act, Option.map_eq_none_iff] at none
    rw [h.vacant place none, added?, none]
    split <;> rfl

theorem Sound.step {b : Bench} {ledgers : Nat → List Entry} (h : Sound b ledgers) (op : Op) :
    Sound (b.step op) fun place => ledgers place ++ (b.added? place op).toList := by
  have quiet (op : Op) (silent : ∀ place, b.added? place op = none) :
      (fun place => ledgers place ++ (b.added? place op).toList) = ledgers := by
    simp [silent]
  cases op with
  | create reports =>
    rw [quiet _ fun _ => rfl]
    exact h.create reports
  | clone handle =>
    rw [quiet _ fun _ => rfl]
    exact ⟨h.kept, h.vacant⟩
  | act handle act => exact h.act handle act

end Bench

end Memory

end GameClient
