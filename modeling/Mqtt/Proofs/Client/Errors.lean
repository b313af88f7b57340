import Mqtt.Proofs.Client.Keeping
import Mqtt.Proofs.Encoder.Validation
import Mqtt.Proofs.Ledger.Refusals
import Mqtt.Transport

/-!
What calls of operations fail with. The arguments are checked before anything is encoded, so that of
the errors of the encoder only those are left that are about the size of the whole packet.
-/

namespace Mqtt
set_option autoImplicit false

/-! ### Operations that are not issued -/

namespace Operation

variable {o : Operation} {e : Error}

/-- What a call fails with, unless the transport fails. -/
def errors : List Error :=
  [.invalidTopic, .invalidTopicFilter, .notConnected, .outboxFull, .encodeBufferTooSmall,
    .variableLengthIntegerMaximumExceeded, .operationChannelSendError,
    .operationChannelReceiveError]

theorem error_of_check (h : o.check = .error e) : e ∈ errors := by
  cases o with
  | publish topic payload qos retain =>
    change Topic.check topic = .error e at h
    unfold Topic.check at h
    split at h
    · cases h
    · cases h
      decide
  | subscribe filter qos | unsubscribe filter =>
    change Topic.checkFilter filter = .error e at h
    unfold Topic.checkFilter at h
    split at h
    · cases h
    · cases h
      decide

theorem sizes_of_check (h : o.check = .ok ()) (packetId : UInt16) :
    ∀ size ∈ (o.packet packetId).sizes, size ≤ Field.maximumSize := by
  cases o with
  | publish topic payload qos retain =>
    exact List.forall_mem_singleton.mpr (Topic.size_of_check h)
  | subscribe filter qos | unsubscribe filter =>
    exact List.forall_mem_singleton.mpr (Topic.size_of_checkFilter h)

/-- Only the packet as a whole can be too long. -/
theorem error_of_encode (h : o.check = .ok ()) {encoder : Encoder} {packetId : UInt16}
    (herror : encoder.error? (o.packet packetId) = some e) : e ∈ errors := by
  rw [Encoder.error?_eq_some_iff] at herror
  rcases Nat.lt_or_ge VarLength.maximum (o.packet packetId).remainingLength with hlong | hshort
  · rw [Encoder.encode_of_error (Packet.encode_of_long hlong)] at herror
    cases herror
    decide
  · obtain ⟨bytes, hbytes⟩ := Packet.encode_of_short (sizes_of_check h packetId) hshort
    rw [Encoder.encode_eq_ite hbytes] at herror
    split at herror
    · cases herror
      decide
    · cases herror

theorem error_of_begin (h : o.check = .ok ()) {l : Ledger} {now : Nat}
    (herror : (l.begin now o).2 = .error e) : e ∈ errors := by
  rw [Ledger.begin_eq_error_iff] at herror
  unfold Ledger.refusal? at herror
  split at herror
  · cases herror
    decide
  · split at herror
    · exact error_of_encode h herror
    · split at herror
      · exact error_of_encode h herror
      · cases herror
        decide

end Operation

namespace Client
open Operation (errors)

variable {κ : Type} {c : Client κ} {e : Error}

theorem error_of_offer {r : Request} (h : (c.offer r).2 = .error e) :
    e = .operationChannelSendError := by
  unfold offer at h
  split at h
  · cases h
    rfl
  · split at h
    · cases h
      rfl
    · cases h

theorem error_of_enqueue {r : Request} (h : (c.enqueue r).2 = .error e) : e ∈ errors := by
  rw [enqueue_eq] at h
  split at h
  · rw [error_of_offer h]
    decide
  · cases h
    decide

theorem error_of_submit {ticket : Nat} {kind : PacketType} {out : Outgoing}
    (h : (c.submit ticket kind out).2 = some (.issued (.error e))) : e ∈ errors := by
  unfold submit at h
  split at h
  · cases h
  · rename_i henqueue
    cases h
    exact error_of_enqueue (congrArg Prod.snd henqueue)

/-- A call that returns at once. -/
theorem error_of_operate {now ticket : Nat} {o : Operation}
    (h : (c.operate now ticket o).2 = some (.issued (.error e))) : e ∈ errors := by
  rw [operate_eq] at h
  cases hcheck : o.check with
  | error e' =>
    rw [hcheck] at h
    cases h
    exact Operation.error_of_check hcheck
  | ok u =>
    rw [hcheck] at h
    dsimp only [issue] at h
    split at h
    · exact error_of_submit h
    · rename_i hbegin
      cases h
      exact Operation.error_of_begin hcheck (congrArg Prod.snd hbegin)

/-- The session learns of a write only from the transport. -/
theorem signal_of_written {now : Nat} {signal : Signal} {t : Task} {m : Moment}
    {result : Except Error Unit} (h : c.moment? now signal = some (t, m))
    (hwake : m.wake = .written result) : signal = .written result := by
  unfold moment? at h
  cases htask : c.task with
  | none =>
    rw [htask] at h
    cases h
  | some t₀ =>
    cases hw : c.wake? t₀ signal with
    | none => simp [htask, hw] at h
    | some r =>
      obtain ⟨w, t₁⟩ := r
      simp only [htask, hw, Option.bind_eq_bind, Option.bind_some] at h
      split at h
      · cases h
        cases hwake
        cases signal <;> simp [wake?] at hw
        · split at hw <;> simp at hw
        · rw [hw.1]
      · cases h

end Client

/-! ### Operations that are issued -/

namespace Session

variable {s : Session} {m : Moment} {ticket : Nat} {e : Error}

theorem error_of_rejected {r : Request} (hwake : m.wake = .request r)
    (haccepts : s.phase.accepts m.wake = true)
    (h : .answer ticket (.error e) ∈ (s.respond m).effects) : e = .notConnected := by
  obtain ⟨config, port, phase, decoder, items, lastPing, lastError⟩ := s
  obtain ⟨l, now, stopRequested, wake⟩ := m
  cases hwake
  cases phase with
  | awaitingAnswer deadline =>
    cases List.mem_singleton.mp h
    rfl
  | listening => cases List.mem_singleton.mp h
  | sleeping deadline =>
    cases List.mem_singleton.mp h
    rfl
  | _ => cases haccepts

/-- After the write of a response, or its failure, no call is answered. -/
theorem unanswered_of_response {event : Event} {result : Except Error Unit}
    (hphase : s.phase = .writing (.response (some event)))
    (haccepts : s.phase.accepts m.wake = true) :
    .answer ticket result ∉ (s.respond m).effects := by
  obtain ⟨config, port, phase, decoder, items, lastPing, lastError⟩ := s
  obtain ⟨l, now, stopRequested, wake⟩ := m
  cases hphase
  intro h
  cases wake with
  | written outcome => cases outcome <;> cases List.mem_singleton.mp h
  | _ => cases haccepts

/-- A session answers that there is no connection, or what the transport said of the write. -/
theorem error_of_answer (haccepts : s.phase.accepts m.wake = true)
    (h : .answer ticket (.error e) ∈ (s.respond m).effects) :
    e = .notConnected ∨ m.wake = .written (.error e) := by
  by_cases hresponse : ∃ event, s.phase = .writing (.response (some event))
  · obtain ⟨event, hphase⟩ := hresponse
    exact absurd h (unanswered_of_response hphase haccepts)
  cases conduct haccepts fun event hphase => absurd ⟨event, hphase⟩ hresponse with
  | takes r timeout hwake hidle hphase heffects hmoves =>
    rw [heffects] at h
    cases List.mem_singleton.mp h
  | rejects r e' hwake hidle hphase heffects hmoves =>
    exact .inl (error_of_rejected hwake haccepts h)
  | writes r hwake hbusy hphase heffects hmoves =>
    rw [heffects] at h
    cases List.mem_singleton.mp h
  | breaks r e' hwake hbusy hphase heffects hmoves =>
    rw [heffects] at h
    rcases List.mem_cons.mp h with h | h
    · cases h
      exact .inr hwake
    · cases List.mem_singleton.mp h
  | aside hwake hidle haside => exact absurd h (haside.unanswered ticket _)

end Session

namespace LogEntry

/-- The error that a call comes to. -/
def failure? : LogEntry → Option Error
  | .refused _ e | .answered _ (.error e) => some e
  | _ => none

end LogEntry

theorem Effect.exists_answer {x : Effect} {y : LogEntry} {e : Error} (hy : y ∈ x.entries)
    (h : y.failure? = some e) : ∃ ticket, x = .answer ticket (.error e) := by
  cases x with
  | answer ticket result =>
    cases result with
    | ok u =>
      rw [List.mem_singleton.mp hy] at h
      cases h
    | error e' =>
      rcases List.mem_cons.mp hy with rfl | hy
      · cases h
      · rw [List.mem_singleton.mp hy] at h
        cases h
        exact ⟨ticket, rfl⟩
  | _ => cases hy

namespace Scene
open Operation (errors)

variable {κ : Type} {react : κ → Event → Reaction κ} {s : Scene κ} {x : LogEntry} {e : Error}

theorem failure_of_call {now : Nat} {o : Operation} (hx : x ∈ (s.call now o).2)
    (h : x.failure? = some e) : e ∈ errors := by
  have hrefused : ∀ e', x ∈ [LogEntry.called s.tickets now o, .refused s.tickets e'] → e' = e := by
    intro e' hx
    rcases List.mem_cons.mp hx with rfl | hx
    · cases h
    · rw [List.mem_singleton.mp hx] at h
      exact Option.some.inj h
  unfold call at hx
  dsimp only at hx
  cases hcheck : o.check with
  | error e' =>
    rw [hcheck] at hx
    rw [← hrefused e' hx]
    exact Operation.error_of_check hcheck
  | ok u =>
    rw [hcheck] at hx
    dsimp only at hx
    split at hx
    · rename_i e' hbegin
      rw [← hrefused e' hx]
      exact Operation.error_of_begin hcheck (congrArg Prod.snd hbegin)
    · rcases mem_issuing hx with rfl | rfl | ⟨d, rfl⟩ <;> cases h

theorem failure?_beforeEffects {session : Session} {m : Moment}
    (hx : x ∈ s.beforeEffects session m) : x.failure? = none := by
  unfold beforeEffects at hx
  split at hx
  · rw [List.mem_singleton.mp hx]
    rfl
  · rw [List.mem_singleton.mp hx]
    rfl
  · cases hx

theorem failure_of_proceed {now : Nat} {signal : Client.Signal} {t : Task} {m : Moment}
    (hmoment : s.client.moment? now signal = some (t, m)) (hx : x ∈ (s.proceed react t m).2)
    (h : x.failure? = some e) : e ∈ errors ∨ signal = .written (.error e) := by
  obtain ⟨_, haccepts, _⟩ := Client.moment?_cases hmoment
  unfold proceed at hx
  simp only [List.mem_append, List.mem_flatMap, List.mem_map] at hx
  rcases hx with ((hx | ⟨d, _, rfl⟩) | ⟨effect, heffect, hx⟩) | ⟨action, _, hx⟩
  · rw [failure?_beforeEffects hx] at h
    cases h
  · cases h
  · obtain ⟨ticket, rfl⟩ := Effect.exists_answer hx h
    rcases Session.error_of_answer haccepts heffect with rfl | hwake
    · exact .inl (by decide)
    · exact .inr (Client.signal_of_written hmoment hwake)
  · cases action with
    | told event audience =>
      rw [List.mem_singleton.mp hx] at h
      cases h
    | transport effect => cases hx

theorem failure_of_settle (hx : x ∈ s.settle.2) (h : x.failure? = some e) : e ∈ errors := by
  unfold settle at hx
  split at hx
  · obtain ⟨ticket, _, rfl⟩ := List.mem_map.mp hx
    cases h
    decide
  · cases hx

theorem failure_of_offer {ticket : Nat} (hx : x ∈ (s.offer ticket).2) (h : x.failure? = some e) :
    e ∈ errors := by
  unfold offer at hx
  split at hx
  · split at hx
    · rw [List.mem_singleton.mp hx] at h
      cases h
    · rename_i r session hcaller client e' hoffer
      rw [List.mem_singleton.mp hx] at h
      cases h
      have hresult := congrArg Prod.snd hoffer
      split at hresult
      · rw [Client.error_of_offer hresult]
        decide
      · cases hresult
        decide
  · cases hx

/-- What a call can come to in one act. -/
theorem failure_of_act {a : Act κ} (hx : x ∈ (s.act react a).2) (h : x.failure? = some e) :
    e ∈ errors ∨ ∃ now, a = .session now (.written (.error e)) := by
  cases a with
  | start =>
    change x ∈ s.start.2 at hx
    unfold start at hx
    split at hx
    · rw [List.mem_singleton.mp hx] at h
      cases h
    · cases hx
  | stop | release | listen listeners mailboxes nextListener => cases hx
  | call now o => exact .inl (failure_of_call hx h)
  | reach ticket =>
    change x ∈ (s.reach ticket).2 at hx
    unfold reach at hx
    split at hx
    · split at hx
      · cases hx
      · rw [List.mem_singleton.mp hx] at h
        cases h
        exact .inl (by decide)
    · cases hx
  | offer ticket => exact .inl (failure_of_offer hx h)
  | giveUp ticket =>
    change x ∈ (s.giveUp ticket).2 at hx
    unfold giveUp at hx
    split at hx
    · rcases List.mem_cons.mp hx with rfl | hx
      · cases h
      · rw [List.mem_singleton.mp hx] at h
        cases h
    · cases hx
  | conclude ticket =>
    change x ∈ (s.conclude ticket).2 at hx
    unfold conclude at hx
    split at hx
    · split at hx
      · rcases mem_returning hx with rfl | ⟨result, rfl, _⟩ <;> cases h
      · cases hx
    · cases hx
  | cancel ticket =>
    change x ∈ (s.cancel ticket).2 at hx
    unfold cancel at hx
    split at hx
    · rw [List.mem_singleton.mp hx] at h
      cases h
    · cases hx
  | session now signal =>
    change x ∈ (s.session react now signal).2 at hx
    unfold session at hx
    split at hx
    · cases hx
    · split at hx
      · rename_i t m hmoment
        rcases List.mem_append.mp hx with hx | hx
        · rcases failure_of_proceed hmoment hx h with herror | rfl
          · exact .inl herror
          · exact .inr ⟨now, rfl⟩
        · exact .inl (failure_of_settle hx h)
      · cases hx

/-- What a call can come to in a run. -/
theorem failure_of_play {acts : List (Act κ)} (hx : x ∈ (s.play react acts).2)
    (h : x.failure? = some e) :
    e ∈ errors ∨ ∃ now, .session now (.written (.error e)) ∈ acts := by
  induction acts generalizing s with
  | nil => cases hx
  | cons a acts ih =>
    rcases List.mem_append.mp hx with hx | hx
    · rcases failure_of_act hx h with herror | ⟨now, rfl⟩
      · exact .inl herror
      · exact .inr ⟨now, List.mem_cons_self⟩
    · rcases ih hx with herror | ⟨now, hmem⟩
      · exact .inl herror
      · exact .inr ⟨now, List.mem_cons_of_mem a hmem⟩

/-- What a call comes back with was refused or answered before. -/
theorem error_of_result {config : Config} {defaultPort : UInt16} {listener : Option (Listener κ)}
    {c : Client κ} (hnew : Client.new config defaultPort listener = .ok c) {acts : List (Act κ)}
    {ticket : Nat} (hresult : (ticket, .error e) ∈
      (({ client := c } : Scene κ).play react acts).2.filterMap LogEntry.result?) :
    e ∈ errors ∨ ∃ now, .session now (.written (.error e)) ∈ acts := by
  obtain ⟨x, hx, hticket⟩ := List.mem_filterMap.mp hresult
  cases x with
  | refused ticket' e' =>
    cases hticket
    exact failure_of_play hx rfl
  | returned ticket' result =>
    cases hticket
    obtain ⟨hkept, hdrained⟩ := kept_of_new hnew
    obtain ⟨hplayed, _⟩ := hkept.play hdrained react acts
    rw [List.nil_append] at hplayed
    obtain ⟨r, answer, _, _, hanswered, hmap⟩ := hplayed.faithful.returned _ _ hx
    cases answer with
    | ok u => cases hmap
    | error e' =>
      cases hmap
      exact failure_of_play hanswered rfl
  | _ => cases hticket

end Scene

/-- A stream's own errors are about the stream. -/
theorem Link.write_ne_payloadTooLarge (l : Link) (bytes : Bytes) :
    (l.write bytes).2 ≠ .error .payloadTooLarge := by
  unfold Link.write
  split
  · split <;> exact nofun
  · exact nofun

/-- What was checked can be encoded. The CONNECT of a client's configuration is written unless it is
longer than the buffer, and reads as what the configuration says; so are the packets of filters and
of topics, of which a message can also be longer than any packet. That a single part is too long is
told to no caller, unless the transport says it of a write, which no stream does. -/
theorem Client.checked_input_is_encodable :
    (∀ {κ : Type} (react : κ → Event → Reaction κ) (config : Config) (defaultPort : UInt16)
      (listener : Option (Listener κ)) (c : Client κ),
      Client.new config defaultPort listener = .ok c →
      (∃ f : Frame, f.decode = .ok (.connect config.toConnect)
        ∧ (Session.new config defaultPort).encode (.connect config.toConnect) =
          if config.bufferSize < f.bytes.length then .error .encodeBufferTooSmall
          else .ok f.bytes)
      ∧ ∀ acts : List (Act κ),
        (∀ now, .session now (.written (.error .payloadTooLarge)) ∉ acts) →
        ∀ ticket, (ticket, .error .payloadTooLarge) ∉
          (({ client := c } : Scene κ).play react acts).2.filterMap LogEntry.result?)
    ∧ (∀ (e : Encoder) (filter : String) (qos : QoS), Topic.checkFilter filter = .ok () →
      e.NeedsOnlySpace (.subscribe filter qos) ∧ e.NeedsOnlySpace (.unsubscribe filter))
    ∧ (∀ (e : Encoder) (topic : String) (payload : Bytes) (qos : QoS) (retain duplicate : Bool),
      Topic.check topic = .ok () →
      let c : Encoder.Call := .publish topic payload qos retain duplicate
      if VarLength.maximum < (c.packet (e.idFor c)).remainingLength then
        (e.call c).2 = .error .variableLengthIntegerMaximumExceeded
      else e.NeedsOnlySpace c)
    ∧ (∀ {κ : Type} (c : Client κ) (now ticket : Nat) (o : Operation),
      (c.operate now ticket o).2 ≠ some (.issued (.error .payloadTooLarge)))
    ∧ ∀ (l : Link) (bytes : Bytes), (l.write bytes).2 ≠ .error .payloadTooLarge := by
  have hnone : .payloadTooLarge ∉ Operation.errors := by decide
  refine ⟨fun react config defaultPort listener c hnew => ⟨?_, ?_⟩, ?_, ?_, ?_,
    Link.write_ne_payloadTooLarge⟩
  · exact Session.encode_connect (Client.new_eq_ok_iff.mp hnew).1 defaultPort
  · intro acts hwritten ticket hresult
    rcases Scene.error_of_result hnew hresult with herror | ⟨now, hmem⟩
    · exact hnone herror
    · exact hwritten now hmem
  · intro e filter qos hfilter
    exact ⟨Encoder.needsOnlySpace_subscribe hfilter qos, Encoder.needsOnlySpace_unsubscribe hfilter⟩
  · intro e topic payload qos retain duplicate htopic
    exact Encoder.call_publish htopic payload qos retain duplicate
  · intro κ c now ticket o hreturn
    exact hnone (Client.error_of_operate hreturn)

/-- A client with a will and credentials; a filter and a topic that the buffer has room for; and a
message whose write fails. -/
theorem Client.checked_input_is_encodable_of_will :
    let will : LastWill := ⟨"w", [2], .atLeastOnce, true⟩
    let settings : Settings :=
      { host := "h", username := some "u", password := some [1], will := some will }
    let config := settings.toConfig "c"
    let acts : List (Act Unit) := Act.connecting ++
      [.call 0 (.publish "a" [98] .atMostOnce false), .reach 0, .offer 0, .session 0 .request,
        .session 0 (.written (.error .connectionTimeout)), .conclude 0]
    ∃ c : Client Unit, Client.new config 1883 none = .ok c
      ∧ (∃ f : Frame, f.decode = .ok (.connect config.toConnect) ∧ f.bytes =
        [0x10, 25, 0, 4, 77, 81, 84, 84, 4, 0xee, 0, 120, 0, 1, 99, 0, 1, 119, 0, 1, 2, 0, 1, 117,
          0, 1, 1])
      ∧ (let results :=
          (({ client := c } : Scene Unit).play (fun _ _ => {}) acts).2.filterMap LogEntry.result?
        (0, .error .connectionTimeout) ∈ results
          ∧ ∀ ticket, (ticket, .error .payloadTooLarge) ∉ results)
      ∧ (Encoder.new 9).NeedsOnlySpace (.subscribe "a/+" .atLeastOnce)
      ∧ (Encoder.new 9).NeedsOnlySpace (.publish "a" [1, 2] .exactlyOnce false false) := by
  intro will settings config acts
  have hcheck : config.check = .ok () := by decide +kernel
  have hnew : Client.new (κ := Unit) config 1883 none =
      .ok { config, defaultPort := 1883, ledger := .new config, listeners := [] } :=
    Client.new_eq_ok_iff.mpr ⟨hcheck, rfl⟩
  obtain ⟨hclients, hfilters, htopics, _, _⟩ := Client.checked_input_is_encodable
  obtain ⟨⟨f, hread, hbytes⟩, hrun⟩ := hclients (fun _ _ => {}) config 1883 none _ hnew
  refine ⟨_, hnew, ⟨f, hread, ?_⟩, ⟨?_, hrun acts ?_⟩, ?_, ?_⟩
  · have hencode : (Session.new config 1883).encode (.connect config.toConnect) = .ok
        [0x10, 25, 0, 4, 77, 81, 84, 84, 4, 0xee, 0, 120, 0, 1, 99, 0, 1, 119, 0, 1, 2, 0, 1, 117,
          0, 1, 1] := by decide +kernel
    rw [hencode] at hbytes
    split at hbytes
    · cases hbytes
    · exact (Except.ok.inj hbytes).symm
  · subst acts config settings will
    decide +kernel
  · intro now hmem
    simp [acts, Act.connecting] at hmem
  · exact (hfilters (.new 9) "a/+" .atLeastOnce rfl).1
  · have hpublish := htopics (.new 9) "a" [1, 2] .exactlyOnce false false rfl
    rw [if_neg (by decide)] at hpublish
    exact hpublish

end Mqtt
