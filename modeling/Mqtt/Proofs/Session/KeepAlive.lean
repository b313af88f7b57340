import Mqtt.Proofs.Session.Clock

/-!
Keep alive. Where writes take no time, a connected session is never later with a PINGREQ than one
millisecond after half the keep alive, never early, and never reads without a timeout that brings
it back in time.
-/

namespace Mqtt
set_option autoImplicit false

/-- There is no connection, and none is being given up. -/
def Phase.IsApart : Phase → Prop
  | .failing | .leaving _ | .writing .farewell => False
  | phase => ¬ phase.IsConnected

theorem Phase.IsApart.not_isConnected {phase : Phase} (h : phase.IsApart) :
    ¬ phase.IsConnected := by
  unfold IsApart at h
  split at h
  · exact h.elim
  · exact h.elim
  · exact h.elim
  · exact h

/-- Where writes take no time, only a read keeps a connected session waiting. -/
theorem Session.due_of_isConnected {o : Session.Outcome} {now : Nat}
    (hp : o.session.phase.IsConnected) (hidle : o.session.phase ≠ .listening) :
    o.due (some 0) now = some now := by
  unfold Session.Outcome.due
  cases hphase : o.session.phase with
  | listening => exact absurd hphase hidle
  | serving | handling | writing => rfl
  | _ => exact absurd hp (hphase ▸ id)

namespace Timed

variable {x : Timed} {m : Moment}

/-- The later of when the state was entered and when a PINGREQ was last written. -/
def lastSign (x : Timed) : Nat := max x.since x.pinged

/-- How near the next PINGREQ is, by what the session does. -/
inductive Mood (x : Timed) : Prop where
  | away (hp : ¬ x.session.phase.IsConnected)
    (hfinal : ∀ final, x.session.phase = .leaving final → final ≠ .connected)
    (hstate : x.state ≠ .connected)
  | closing
    (hp : x.session.phase = .failing ∨ x.session.phase = .writing .farewell
      ∨ x.session.phase = .leaving .stopped)
    (hstate : x.state = .connected) (hdue : x.due = some x.now)
    (hnear : x.now ≤ x.lastSign + x.session.pingInterval + 1)
  | busy (hp : x.session.phase.IsConnected) (hping : x.session.phase ≠ .writing .ping)
    (hidle : x.session.phase ≠ .listening)
    (hstate : x.state = .connected) (hdue : x.due = some x.now)
    (hlast : x.session.lastPing = x.lastSign)
    (hnear : x.now ≤ x.lastSign + x.session.pingInterval + 1)
  | pinging (hp : x.session.phase = .writing .ping)
    (hstate : x.state = .connected) (hdue : x.due = some x.now) (hlast : x.lastSign = x.now)
  | patient (due : Nat) (hp : x.session.phase = .listening)
    (hstate : x.state = .connected) (hdue : x.due = some due)
    (hlast : x.session.lastPing = x.lastSign)
    (hnear : due ≤ x.lastSign + x.session.pingInterval + 1)

structure Prompt (x : Timed) : Prop where
  past : x.lastSign ≤ x.now
  mood : x.Mood

theorem prompt_new (config : Config) (defaultPort : UInt16) (start : Nat) :
    (Timed.new config defaultPort start).Prompt :=
  ⟨Nat.max_le.mpr ⟨Nat.le_refl _, Nat.le_refl _⟩, .away id nofun nofun⟩

/-! ### What the mood says of the next moment -/

theorem Prompt.near (h : x.Prompt) (hadmits : x.Admits m) (hstate : x.state = .connected) :
    m.now ≤ x.lastSign + x.session.pingInterval + 1 := by
  have hlater := hadmits.in_time
  cases h.mood with
  | away _ _ haway => exact absurd hstate haway
  | closing _ _ hdue hnear => exact Nat.le_trans (hlater _ hdue) hnear
  | busy _ _ _ _ hdue _ hnear => exact Nat.le_trans (hlater _ hdue) hnear
  | pinging _ _ hdue hlast =>
    have hnow := hlater _ hdue
    omega
  | patient due _ _ hdue _ hnear => exact Nat.le_trans (hlater _ hdue) hnear

theorem Prompt.state_of_isConnected (h : x.Prompt) (hp : x.session.phase.IsConnected) :
    x.state = .connected := by
  cases h.mood with
  | away haway => exact absurd hp haway
  | closing _ hstate => exact hstate
  | busy _ _ _ hstate => exact hstate
  | pinging _ hstate => exact hstate
  | patient _ _ hstate => exact hstate

theorem Prompt.lastPing_of_isConnected (h : x.Prompt) (hp : x.session.phase.IsConnected)
    (hping : x.session.phase ≠ .writing .ping) : x.session.lastPing = x.lastSign := by
  cases h.mood with
  | away haway => exact absurd hp haway
  | closing hclosing =>
    rcases hclosing with hfailing | hfarewell | hleaving
    · exact absurd hp (hfailing ▸ id)
    · exact absurd hp (hfarewell ▸ id)
    · exact absurd hp (hleaving ▸ id)
  | busy _ _ _ _ _ hlast => exact hlast
  | pinging hwriting => exact absurd hwriting hping
  | patient _ _ _ _ hlast => exact hlast

/-- Away from a connection, nobody sees one. -/
theorem Prompt.state_of_isApart (h : x.Prompt) (hp : x.session.phase.IsApart) :
    x.state ≠ .connected := by
  cases h.mood with
  | away _ _ hstate => exact hstate
  | closing hclosing =>
    rcases hclosing with hclosing | hclosing | hclosing <;> rw [hclosing] at hp <;> cases hp
  | busy hconnected => exact absurd hconnected hp.not_isConnected
  | pinging hping => exact absurd (hping ▸ trivial) hp.not_isConnected
  | patient _ hlistening => exact absurd (hlistening ▸ trivial) hp.not_isConnected

theorem Prompt.final_ne_connected (h : x.Prompt) {final : SessionState}
    (hp : x.session.phase = .leaving final) : final ≠ .connected := by
  have hapart : ¬ x.session.phase.IsConnected := hp ▸ id
  cases h.mood with
  | away _ hfinal => exact hfinal final hp
  | closing hclosing =>
    rw [hp] at hclosing
    rcases hclosing with hclosing | hclosing | hclosing <;> cases hclosing
    exact nofun
  | busy hconnected => exact absurd hconnected hapart
  | pinging hping => exact absurd (hping ▸ trivial) hapart
  | patient _ hlistening => exact absurd (hlistening ▸ trivial) hapart

/-- A PINGREQ is written at once. -/
theorem Prompt.now_of_pinging (h : x.Prompt) (hadmits : x.Admits m)
    (hp : x.session.phase = .writing .ping) : x.lastSign = m.now := by
  cases h.mood with
  | away haway => exact absurd (hp ▸ trivial) haway
  | closing hclosing =>
    rw [hp] at hclosing
    rcases hclosing with hclosing | hclosing | hclosing <;> cases hclosing
  | busy _ hping => exact absurd hp hping
  | pinging _ _ hdue hlast =>
    have hnow := hadmits.in_time _ hdue
    have hlater := hadmits.later
    omega
  | patient _ hlistening =>
    rw [hp] at hlistening
    cases hlistening

/-! ### Steps -/

theorem pingInterval_advance (writing : Option Nat) (x : Timed) (m : Moment) :
    (x.advance writing m).session.pingInterval = x.session.pingInterval := by
  unfold Session.pingInterval
  rw [session_advance, Session.config_turn]

theorem lastSign_advance_le (writing : Option Nat) (hpast : x.lastSign ≤ x.now)
    (hadmits : x.Admits m) : (x.advance writing m).lastSign ≤ m.now := by
  have hlater := hadmits.later
  unfold lastSign at hpast
  unfold lastSign advance
  dsimp only
  split
  · dsimp only
    split <;> split <;> omega
  · dsimp only
    omega

section
variable (haccepts : x.session.phase.accepts m.wake = true)
include haccepts

theorem lastSign_advance (writing : Option Nat) (hadmits : x.Admits m)
    (hquiet : (x.session.respond m).effects.any Effect.isPing = false)
    (hstate : (x.session.respond m).ledger.state = m.ledger.state) :
    (x.advance writing m).lastSign = x.lastSign := by
  rw [advance_of_steady haccepts hadmits hstate, hquiet]
  rfl

theorem mood_away (hp : ¬ (x.session.respond m).session.phase.IsConnected)
    (hfinal : ∀ final, (x.session.respond m).session.phase = .leaving final → final ≠ .connected)
    (hstate : (x.session.respond m).ledger.state ≠ .connected) :
    (x.advance (some 0) m).Mood := by
  rw [advance_of_accepts haccepts]
  exact .away hp hfinal hstate

/-- To a phase that neither belongs to a connection nor ends the session. -/
theorem mood_away_of_phase {phase : Phase} (hphase : (x.session.respond m).session.phase = phase)
    (hp : ¬ phase.IsConnected) (hfinal : ∀ final, phase ≠ .leaving final)
    (hstate : (x.session.respond m).ledger.state ≠ .connected) :
    (x.advance (some 0) m).Mood := by
  subst hphase
  exact mood_away haccepts hp (fun final h => absurd h (hfinal final)) hstate

theorem mood_busy (hp : (x.session.respond m).session.phase.IsConnected)
    (hping : (x.session.respond m).session.phase ≠ .writing .ping)
    (hidle : (x.session.respond m).session.phase ≠ .listening)
    (hstate : (x.session.respond m).ledger.state = .connected)
    (hlast : (x.session.respond m).session.lastPing = (x.advance (some 0) m).lastSign)
    (hnear : m.now ≤ (x.advance (some 0) m).lastSign + x.session.pingInterval + 1) :
    (x.advance (some 0) m).Mood := by
  rw [← pingInterval_advance (some 0) x m] at hnear
  rw [advance_of_accepts haccepts] at hlast hnear ⊢
  exact .busy hp hping hidle hstate (Session.due_of_isConnected hp hidle) hlast hnear

variable (h : x.Prompt) (hadmits : x.Admits m)
include h hadmits

theorem mood_of_isApart (hp : x.session.phase.IsApart)
    (hp' : ¬ (x.session.respond m).session.phase.IsConnected)
    (hfinal : ∀ final, (x.session.respond m).session.phase = .leaving final → final ≠ .connected)
    (hstate : (x.session.respond m).ledger.state = m.ledger.state) :
    (x.advance (some 0) m).Mood := by
  apply mood_away haccepts hp' hfinal
  rw [hstate, hadmits.state]
  exact h.state_of_isApart hp

/-- A connection that is given up is given up at once. -/
theorem mood_closing
    (hp : (x.session.respond m).session.phase = .failing
      ∨ (x.session.respond m).session.phase = .writing .farewell
      ∨ (x.session.respond m).session.phase = .leaving .stopped)
    (hcalm : (x.session.respond m).IsCalm m.ledger) : (x.advance (some 0) m).Mood := by
  by_cases hstate : x.state = .connected
  · have hnear := h.near hadmits hstate
    have hsame := pingInterval_advance (some 0) x m
    have hsign := lastSign_advance haccepts (some 0) hadmits (any_isPing_of_quiet hcalm.quiet)
      hcalm.state
    rw [← hsame, ← hsign] at hnear
    rw [advance_of_steady haccepts hadmits hcalm.state] at hnear ⊢
    refine .closing hp hstate ?_ hnear
    unfold Session.Outcome.due
    rcases hp with hp | hp | hp <;> simp [hp]
  · apply mood_away haccepts
    · rcases hp with hp | hp | hp <;> rw [hp] <;> exact id
    · rintro final hfinal
      rw [hfinal] at hp
      rcases hp with hp | hp | hp
      · cases hp
      · cases hp
      · cases hp
        exact nofun
    · rw [hcalm.state, hadmits.state]
      exact hstate

theorem mood_enters (hp : x.session.phase.IsApart)
    (hphase : (x.session.respond m).session.phase = .serving)
    (hlast : (x.session.respond m).session.lastPing = m.now)
    (hquiet : ∀ e ∈ (x.session.respond m).effects, e.IsQuiet)
    (hstate : (x.session.respond m).ledger.state = .connected) :
    (x.advance (some 0) m).Mood := by
  have hsign : (x.advance (some 0) m).lastSign = m.now := by
    have hpast := h.past
    have hlater := hadmits.later
    rw [advance_of_accepts haccepts, hstate, if_neg (h.state_of_isApart hp).symm,
      any_isPing_of_quiet hquiet]
    unfold lastSign at hpast ⊢
    dsimp only
    rw [if_neg Bool.false_ne_true]
    omega
  apply mood_busy haccepts
  · rw [hphase]
    trivial
  · rw [hphase]
    exact nofun
  · rw [hphase]
    exact nofun
  · exact hstate
  · rw [hsign, hlast]
  · omega

/-- The session goes on with its work, and the last sign of life is the one that it knows of. -/
theorem mood_serves (hp : x.session.phase.IsConnected) (hping : x.session.phase ≠ .writing .ping)
    (hp' : (x.session.respond m).session.phase.IsConnected)
    (hping' : (x.session.respond m).session.phase ≠ .writing .ping)
    (hidle : (x.session.respond m).session.phase ≠ .listening)
    (hlast : (x.session.respond m).session.lastPing = x.session.lastPing)
    (hcalm : (x.session.respond m).IsCalm m.ledger) : (x.advance (some 0) m).Mood := by
  have hstate := h.state_of_isConnected hp
  have hsign := lastSign_advance haccepts (some 0) hadmits (any_isPing_of_quiet hcalm.quiet)
    hcalm.state
  apply mood_busy haccepts hp' hping' hidle
  · rw [hcalm.state, hadmits.state, hstate]
  · rw [hsign, hlast]
    exact h.lastPing_of_isConnected hp hping
  · rw [hsign]
    exact h.near hadmits hstate

/-- A PINGREQ was written, at the moment at which it was begun. -/
theorem mood_pinged (hp : x.session.phase = .writing .ping)
    (hphase : (x.session.respond m).session.phase = .serving)
    (hlast : (x.session.respond m).session.lastPing = m.now)
    (hcalm : (x.session.respond m).IsCalm m.ledger) : (x.advance (some 0) m).Mood := by
  have hnow := h.now_of_pinging hadmits hp
  have hsign := lastSign_advance haccepts (some 0) hadmits (any_isPing_of_quiet hcalm.quiet)
    hcalm.state
  apply mood_busy haccepts
  · rw [hphase]
    trivial
  · rw [hphase]
    exact nofun
  · rw [hphase]
    exact nofun
  · rw [hcalm.state, hadmits.state]
    exact h.state_of_isConnected (hp ▸ trivial)
  · rw [hsign, hlast, hnow]
  · omega

theorem mood_pings (hp : x.session.phase = .handling) {bytes : Bytes} {timeout : Nat}
    (hphase : (x.session.respond m).session.phase = .writing .ping)
    (heffects : (x.session.respond m).effects = [.write bytes timeout])
    (hkind : PacketType.ofBytes? bytes = some .pingreq)
    (hstate : (x.session.respond m).ledger.state = m.ledger.state) :
    (x.advance (some 0) m).Mood := by
  have hping : (x.session.respond m).effects.any Effect.isPing = true := by
    simp [heffects, Effect.isPing, hkind]
  have hpast := h.past
  have hlater := hadmits.later
  unfold lastSign at hpast
  rw [advance_of_steady haccepts hadmits hstate, hping, if_pos rfl]
  refine .pinging hphase (h.state_of_isConnected (hp ▸ trivial)) ?_ ?_
  · unfold Session.Outcome.due
    rw [hphase]
    rfl
  · unfold lastSign
    dsimp only
    omega

theorem mood_listens (hp : x.session.phase = .handling)
    (hearly : m.now - x.session.lastPing ≤ x.session.pingInterval)
    (hphase : (x.session.respond m).session.phase = .listening)
    (hlast : (x.session.respond m).session.lastPing = x.session.lastPing)
    (heffects : (x.session.respond m).effects = [.read (min
      (max (x.session.pingInterval - (m.now - x.session.lastPing)) 1) Session.longestRead)])
    (hstate : (x.session.respond m).ledger.state = m.ledger.state) :
    (x.advance (some 0) m).Mood := by
  have hlastPing := h.lastPing_of_isConnected (hp ▸ trivial) (by simp [hp])
  have hpast := h.past
  have hlater := hadmits.later
  have hsame := pingInterval_advance (some 0) x m
  have hsign := lastSign_advance haccepts (some 0) hadmits (by simp [heffects, Effect.isPing])
    hstate
  have hdue : (x.session.respond m).due (some 0) m.now = some (m.now + min
      (max (x.session.pingInterval - (m.now - x.session.lastPing)) 1) Session.longestRead) := by
    unfold Session.Outcome.due
    rw [hphase, heffects]
    rfl
  rw [advance_of_steady haccepts hadmits hstate] at hsame hsign ⊢
  refine .patient _ hphase ?_ hdue ?_ ?_
  · exact h.state_of_isConnected (hp ▸ trivial)
  · rw [hsign]
    exact hlast.trans hlastPing
  · rw [hsign, hsame]
    omega

end

theorem mood_of_accepts (haccepts : x.session.phase.accepts m.wake = true) (h : x.Prompt)
    (hadmits : x.Admits m) (hm : m.IsProper) : (x.advance (some 0) m).Mood := by
  have hclosing := mood_closing haccepts h hadmits
  have hapart : x.session.phase.IsApart → ∀ phase : Phase,
      (x.session.respond m).session.phase = phase → ¬ phase.IsConnected →
      (∀ final, phase = .leaving final → final ≠ .connected) →
      (x.session.respond m).ledger.state = m.ledger.state → (x.advance (some 0) m).Mood := by
    rintro hp _ rfl hp' hfinal hstate
    exact mood_of_isApart haccepts h hadmits hp hp' hfinal hstate
  cases Session.stride_spec hm haccepts with
  | attempts hp hphase _ hcalm => exact hapart (hp ▸ id) _ hphase id nofun hcalm.state
  | greets hp hphase _ hcalm => exact hapart (hp ▸ id) _ hphase id nofun hcalm.state
  | waits hp _ hphase _ hcalm => exact hapart (hp ▸ id) _ hphase id nofun hcalm.state
  | asks _ hp _ _ hphase _ _ hstate => exact hapart (hp ▸ id) _ hphase id nofun hstate
  | hears _ hp hphase _ hcalm => exact hapart (hp ▸ id) _ hphase id nofun hcalm.state
  | pauses hp _ hphase hcalm => exact hapart (hp ▸ id) _ hphase id nofun hcalm.state
  | resigns hp _ hphase hcalm =>
    refine hapart (hp ▸ id) _ hphase id ?_ hcalm.state
    rintro final hfinal
    cases hfinal
    exact nofun
  | sleeps _ hp _ hphase hcalm => exact hapart (hp ▸ id) _ hphase id nofun hcalm.state
  | rejects _ hp hphase hcalm => exact hapart (hp ▸ id) _ hphase id nofun hcalm.state
  | despairs _ _ _ _ hphase _ hcalm => exact hclosing (.inl hphase) hcalm
  | fails _ _ _ hphase hcalm => exact hclosing (.inl hphase) hcalm
  | departs _ hphase hcalm => exact hclosing (.inr hphase) hcalm
  | departed _ hphase hcalm => exact hclosing (.inr (.inr hphase)) hcalm
  | leaves _ _ _ hphase hcalm => exact hclosing (.inr (.inr hphase)) hcalm
  | enters _ hp _ hphase hping hquiet hstate =>
    exact mood_enters haccepts h hadmits (hp ▸ id) hphase hping hquiet hstate
  | serves hp hping hp' hping' hidle hlast hcalm =>
    exact mood_serves haccepts h hadmits hp hping hp' hping' hidle hlast hcalm
  | pinged hp hphase hlast hcalm => exact mood_pinged haccepts h hadmits hp hphase hlast hcalm
  | pings _ _ hp _ hphase heffects hkind hstate =>
    exact mood_pings haccepts h hadmits hp hphase heffects hkind hstate
  | listens hp hearly hphase hlast heffects hstate =>
    exact mood_listens haccepts h hadmits hp hearly hphase hlast heffects hstate
  | reports _ hphase _ hstate =>
    exact mood_away_of_phase haccepts hphase id nofun (hstate ▸ nofun)
  | reopens _ _ hphase _ hstate =>
    exact mood_away_of_phase haccepts hphase id nofun (hstate ▸ nofun)
  | finishes final hp hphase _ hstate =>
    exact mood_away_of_phase haccepts hphase id nofun (hstate ▸ h.final_ne_connected hp)

/-- To look at a session changes nothing, if the time for it has not passed. -/
theorem mood_of_not_accepts (haccepts : x.session.phase.accepts m.wake = false) (h : x.Prompt)
    (hadmits : x.Admits m) : (x.advance (some 0) m).Mood := by
  have hnow : x.due = some x.now → x.due = some m.now := by
    intro hdue
    have hlater := hadmits.later
    have hin := hadmits.in_time _ hdue
    rw [hdue, Nat.le_antisymm hlater hin]
  rw [advance_of_not_accepts haccepts]
  cases h.mood with
  | away hp hfinal hstate => exact .away hp hfinal hstate
  | closing hp hstate hdue => exact .closing hp hstate (hnow hdue) (h.near hadmits hstate)
  | busy hp hping hidle hstate hdue hlast =>
    exact .busy hp hping hidle hstate (hnow hdue) hlast (h.near hadmits hstate)
  | pinging hp hstate hdue => exact .pinging hp hstate (hnow hdue) (h.now_of_pinging hadmits hp)
  | patient due hp hstate hdue hlast hnear => exact .patient due hp hstate hdue hlast hnear

theorem prompt_advance (h : x.Prompt) (hadmits : x.Admits m) (hm : m.IsProper) :
    (x.advance (some 0) m).Prompt where
  past := by
    refine Nat.le_trans (lastSign_advance_le (some 0) h.past hadmits) ?_
    unfold advance
    dsimp only
    split <;> exact Nat.le_refl _
  mood := by
    cases haccepts : x.session.phase.accepts m.wake with
    | true => exact mood_of_accepts haccepts h hadmits hm
    | false => exact mood_of_not_accepts haccepts h hadmits

/-! ### Runs -/

theorem pingInterval_play (writing : Option Nat) (config : Config) (defaultPort : UInt16)
    (start : Nat) (moments : List Moment) :
    ((Timed.new config defaultPort start).play writing moments).session.pingInterval =
      config.keepAlive.toNat * 500 := by
  unfold Session.pingInterval
  rw [session_play, Session.config_play]
  rfl

/-- A PINGREQ is due after half the keep alive, and never before. -/
theorem Prompt.ping_late (h : x.Prompt) (hm : m.IsProper) {e : Effect}
    (he : e ∈ (x.session.respond m).effects) (hping : e.isPing = true) :
    x.state = .connected ∧ x.lastSign + x.session.pingInterval < m.now := by
  cases haccepts : x.session.phase.accepts m.wake with
  | false =>
    rw [Session.respond_of_not_accepts haccepts] at he
    cases he
  | true =>
    rcases (Session.stride_spec hm haccepts).effects_cases with hquiet | ⟨_, _, _, heffects⟩
      | ⟨_, _, hp, hdue, _⟩ | ⟨_, _, heffects⟩
    · have hnot := (hquiet e he).1
      rw [hping] at hnot
      cases hnot
    · rw [heffects, List.mem_singleton] at he
      rw [he] at hping
      cases hping
    · have hlive : x.session.phase.IsConnected := hp ▸ trivial
      have hlast := h.lastPing_of_isConnected hlive (by simp [hp])
      exact ⟨h.state_of_isConnected hlive, by omega⟩
    · rw [heffects, List.mem_singleton] at he
      rw [he] at hping
      cases hping

theorem Prompt.read_bounded (h : x.Prompt) (hm : m.IsProper) (hstate : x.state = .connected)
    {timeout : Nat} (hread : .read timeout ∈ (x.session.respond m).effects) :
    1 ≤ timeout ∧ timeout ≤ Session.longestRead ∧ x.session.lastPing = x.lastSign
      ∧ m.now - x.session.lastPing ≤ x.session.pingInterval := by
  cases haccepts : x.session.phase.accepts m.wake with
  | false =>
    rw [Session.respond_of_not_accepts haccepts] at hread
    cases hread
  | true =>
    rcases (Session.stride_spec hm haccepts).effects_cases with hquiet | ⟨_, hp, _, _⟩
      | ⟨_, _, _, _, heffects⟩ | ⟨hp, hearly, heffects⟩
    · cases (hquiet _ hread).2
    · exact absurd hstate (h.state_of_isApart (hp ▸ id))
    · rw [heffects, List.mem_singleton] at hread
      cases hread
    · rw [heffects, List.mem_singleton] at hread
      injection hread with htimeout
      have hlast := h.lastPing_of_isConnected (hp ▸ trivial) (by simp [hp])
      unfold Session.longestRead at htimeout ⊢
      omega

/-- In every run of a session in which reads return within their timeouts and writes take no time,
a connection is never without a sign of life for more than a millisecond above half the keep alive,
and no PINGREQ is written before that half has passed. -/
theorem keep_alive_is_timely (config : Config) (defaultPort : UInt16) (start : Nat)
    (moments : List Moment) (hproper : ∀ m ∈ moments, m.IsProper)
    (htime : (Timed.new config defaultPort start).InTime (some 0) moments) :
    (∀ front m back, moments = front ++ m :: back →
      let x := (Timed.new config defaultPort start).play (some 0) front
      let effects := (x.session.respond m).effects
      (x.state = .connected →
          x.lastSign ≤ m.now ∧ m.now ≤ x.lastSign + config.keepAlive.toNat * 500 + 1)
        ∧ (∀ e ∈ effects, e.isPing = true →
            x.state = .connected ∧ x.lastSign + config.keepAlive.toNat * 500 < m.now)
        ∧ (x.state = .connected → ∀ timeout, .read timeout ∈ effects →
            1 ≤ timeout ∧ timeout ≤ 1000 ∧ x.session.lastPing = x.lastSign
              ∧ m.now - x.session.lastPing ≤ config.keepAlive.toNat * 500))
      ∧ ∀ (settings : Settings) (generated : String),
          1 ≤ (settings.toConfig generated).keepAlive.toNat := by
  constructor
  · rintro front m back rfl x effects
    have hm : m.IsProper := hproper m (by simp)
    obtain ⟨h, hadmits⟩ := InTime.at_moment (fun _ _ => prompt_advance)
      (prompt_new config defaultPort start) htime hproper
    have hinterval := pingInterval_play (some 0) config defaultPort start front
    refine ⟨fun hstate => ⟨Nat.le_trans h.past hadmits.later, ?_⟩, ?_, ?_⟩
    · rw [← hinterval]
      exact h.near hadmits hstate
    · intro e he hping
      rw [← hinterval]
      exact h.ping_late hm he hping
    · intro hstate timeout hread
      rw [← hinterval]
      exact h.read_bounded hm hstate hread
  · intro settings generated
    change 1 ≤ (if settings.keepAlive = 0 then Config.defaultKeepAlive
      else settings.keepAlive).toNat
    split
    · decide
    · rename_i hne
      have hpos : settings.keepAlive.toNat ≠ 0 := fun h => hne (UInt16.toNat_inj.mp h)
      omega

/-- With a keep alive of one second, a read that returns just when half of it has passed is followed
by one of a millisecond, and that one by the PINGREQ. -/
theorem keep_alive_is_timely_of_idle_connection :
    let config := ({ host := "h", keepAlive := 1 } : Settings).toConfig "c"
    let script : List (SessionState × Nat × Wake) := [(.init, 0, .run),
      (.init, 7, .connected (.ok ())), (.init, 7, .written (.ok ())), (.init, 7, .run),
      (.init, 9, .read (.ok [32, 2, 0, 0])), (.init, 9, .run), (.connected, 9, .run),
      (.connected, 9, .run), (.connected, 509, .read (.ok [])), (.connected, 509, .run),
      (.connected, 509, .run), (.connected, 510, .read (.ok [])), (.connected, 510, .run)]
    let front : List Moment := script.map fun w =>
      ⟨{ Ledger.new config with state := w.1 }, w.2.1, false, w.2.2⟩
    let m : Moment := ⟨{ Ledger.new config with state := .connected }, 510, false, .run⟩
    let x := (Timed.new config 1883 0).play (some 0) front
    (∀ n ∈ front ++ [m], n.IsProper) ∧ (Timed.new config 1883 0).InTime (some 0) (front ++ [m])
      ∧ (x.session.respond m).effects.any Effect.isPing = true
      ∧ x.lastSign + 500 < m.now ∧ m.now ≤ x.lastSign + 500 + 1 := by
  intro config script front m x
  have hproper : ∀ n ∈ front ++ [m], n.IsProper := by
    intro n hn r hr
    have hwakes : n.wake ∈ (front ++ [m]).map Moment.wake := List.mem_map_of_mem hn
    rw [hr] at hwakes
    simp [front, script, m] at hwakes
  have hrun : (Timed.new config 1883 0).InTime (some 0) (front ++ [m])
      ∧ (x.session.respond m).effects.any Effect.isPing = true := by
    subst x m front script config
    decide +kernel
  obtain ⟨e, he, hping⟩ := List.any_eq_true.mp hrun.2
  have h := (keep_alive_is_timely config 1883 0 (front ++ [m]) hproper hrun.1).1 front m [] rfl
  obtain ⟨hstate, hlate⟩ := h.2.1 e he hping
  have hnear := (h.1 hstate).2
  have hseconds : config.keepAlive.toNat = 1 := by decide
  rw [hseconds] at hlate hnear
  exact ⟨hproper, hrun.1, hrun.2, hlate, hnear⟩

end Timed
end Mqtt
