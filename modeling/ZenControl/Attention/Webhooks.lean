import ZenControl.Attention.Addresses

/-! The webhook of the operator and the worker that delivers to it. A queued delivery keeps the
address of the time it was queued, the worker sends what it has claimed to that address, and an
endpoint that is gone retires the webhook that is configured then. -/
namespace ZenControl.Attention
open Rows Histories

/-- A delivery in the hands of a worker cycle: the row as it was claimed, the webhook that the
operator had set at the claim, and whether its endpoint answered that it is gone. -/
structure Hand where
  id : ℕ
  row : ExternalDelivery
  target : Option String
  retiring : Bool := false
  deriving DecidableEq, Repr

/-- The tables with what the operator last set, the settings that tests have read, and what the
workers have in hand. -/
structure Webhooks where
  desk : Desk := {}
  target : Option String := none
  tests : List WebhookSettings := []
  hands : List Hand := []

inductive WebhookStep
  | save (host : Host) (enabled : Bool) (name url : String)
  | readSettings
  | queueTest (host : Host) (milliseconds : ℕ) (channel : String) (place : ℕ)
  | recover (host : Host)
  | claim (host : Host) (limit : ℕ)
  | send (place : ℕ)
  | sent (host : Host) (place : ℕ)
  | failed (host : Host) (place : ℕ) (error : String) (retryable : Bool) (status : Option ℤ)
      (gone : Bool)
  | retire (host : Host) (place : ℕ) (reason : String)
  | abandon (place : ℕ)
  | other (request : Request)

/-- The second half of `enqueue_notification_external_test`: it queues under the settings that
its first half has read. -/
def queueTestUnder (p : Platform) (host : Host) (milliseconds : ℕ) (channel : String)
    (read : WebhookSettings) (desk : Desk) : Desk :=
  let read := { desk with webhook := read }
  { (enqueueNotificationExternalTest p host milliseconds channel read).commit read with
    webhook := desk.webhook }

namespace WebhookStep

/-- One step of the operator, of a queueing call or of the worker. -/
def next (p : Platform) : WebhookStep → Webhooks → Webhooks
  | save host enabled name url,s =>
    match saveNotificationExternalDeliverySettings p host enabled name url s.desk with
    | .error _ => s
    | .ok (_,desk) =>
      { s with desk := desk, target := if enabled then some (strip url) else none }
  | readSettings,s => { s with tests := s.tests ++ [s.desk.webhook] }
  | queueTest host milliseconds channel place,s =>
    match s.tests[place]? with
    | none => s
    | some read =>
      { s with
        desk := queueTestUnder p host milliseconds channel read s.desk
        tests := s.tests.eraseIdx place }
  | recover host,s =>
    { s with desk := (recoverNotificationExternalDeliveries host s.desk).commit s.desk }
  | claim host limit,s =>
    match claimNotificationExternalDeliveries host limit s.desk with
    | .error _ => s
    | .ok (rows,desk) =>
      { s with
        desk := desk
        hands := s.hands ++ rows.map fun r => { id := r.1, row := r.2, target := s.target } }
  | send _,s => s
  | sent host place,s =>
    match s.hands[place]? with
    | none => s
    | some hand =>
      { s with
        desk := (completeNotificationExternalDelivery host hand.id s.desk).commit s.desk
        hands := s.hands.eraseIdx place }
  | failed host place error retryable status gone,s =>
    match s.hands[place]? with
    | none => s
    | some hand =>
      { s with
        desk := (failNotificationExternalDelivery host hand.id error retryable status
          s.desk).commit s.desk
        hands := if gone ∧ hand.row.channel=.webhook
          then s.hands.set place { hand with retiring := true } else s.hands.eraseIdx place }
  | retire host place reason,s =>
    match s.hands[place]? with
    | none => s
    | some hand =>
      if hand.retiring then
        { s with
          desk := (retireNotificationWebhook host reason s.desk).commit s.desk
          hands := s.hands.eraseIdx place }
      else s
  | abandon place,s => { s with hands := s.hands.eraseIdx place }
  | other request,s =>
    if request.call.external then s else { s with desk := request.next p s.desk }

/-- What the step must respect: a delivery is sent to the webhook that the operator had set when
it was claimed, and a retirement that does something is of the webhook that answered. -/
def Respects : WebhookStep → Webhooks → Prop
  | send place,s => ∀ hand, s.hands[place]?=some hand → hand.row.channel=.webhook →
      hand.target=some hand.row.destination
  | retire _ place _,s => ∀ hand, s.hands[place]?=some hand → hand.retiring →
      (s.desk.webhook.enabled ∨ ∃ k r, s.desk.externalDeliveries.find k=some r ∧
        r.channel=.webhook ∧ r.status=.pending) →
      s.desk.webhook.url=hand.row.destination
  | _,_ => True

/-- Nothing that may still be sent goes anywhere else than the settings that are saved: when a
webhook is set, no delivery in the queue, in hand or of a test that has read the settings has
another address; when it is disabled, none is in hand or of such a test. -/
def SavesSettled (p : Platform) : WebhookStep → Webhooks → Prop
  | save host enabled name url,s =>
    (saveNotificationExternalDeliverySettings p host enabled name url s.desk).isOk →
      (enabled → ∀ k r, s.desk.externalDeliveries.find k=some r → r.channel=.webhook → r.Live →
        r.destination=strip url) ∧
      (∀ hand ∈ s.hands, hand.row.channel=.webhook →
        enabled ∧ hand.row.destination=strip url) ∧
      ∀ read ∈ s.tests, read.enabled → read.url≠"" → enabled ∧ read.url=strip url
  | _,_ => True

end WebhookStep

/-- The changes of the operator are respected in every step of a run. -/
def WebhooksRespected (p : Platform) (steps : List WebhookStep) : Prop :=
  Each (WebhookStep.next p) WebhookStep.Respects steps {}

/-- Everything that may still be sent to a webhook goes to the one that the operator set. -/
structure Webhooks.Settled (s : Webhooks) : Prop where
  url : s.desk.webhook.enabled → s.target=some s.desk.webhook.url
  target : ∀ u, s.target=some u → s.desk.webhook.url=u
  stripped : strip s.desk.webhook.url=s.desk.webhook.url
  rows : ∀ k r, s.desk.externalDeliveries.find k=some r → r.channel=.webhook → r.Live →
    s.target=some r.destination
  hands : ∀ hand ∈ s.hands, hand.row.channel=.webhook →
    s.target=some hand.row.destination ∧ hand.target=some hand.row.destination
  found : ∀ hand ∈ s.hands, ∃ r, s.desk.externalDeliveries.find hand.id=some r ∧
    hand.row.SameWay r
  tests : ∀ read ∈ s.tests, read.enabled → read.url≠"" → s.target=some read.url
  gone : ∀ hand ∈ s.hands, hand.retiring → hand.row.channel=.webhook

section Steps
variable {p : Platform} {s : Webhooks}

/-- A change of the tables that readdresses nothing, with fewer deliveries in hand. -/
lemma Webhooks.Settled.readdressed {desk' : Desk} {hands' : List Hand} (h : s.Settled)
    (hdesk : Readdressed s.desk desk') (hhands : ∀ hand ∈ hands', hand ∈ s.hands) :
    ({ s with desk := desk', hands := hands' } : Webhooks).Settled where
  url henabled := by
    rw [hdesk.webhook] at henabled ⊢
    exact h.url henabled
  target u hu := by
    rw [hdesk.webhook]
    exact h.target u hu
  stripped := by
    rw [hdesk.webhook]
    exact h.stripped
  rows k r' hr' hchannel hlive := by
    cases hr : s.desk.externalDeliveries.find k with
    | none =>
      obtain ⟨henabled,hdestination⟩ := hdesk.fresh hr hr' hchannel
      rw [hdestination,h.stripped]
      exact h.url henabled
    | some r =>
      obtain ⟨r'',hr'',hway,hkeeps⟩ := hdesk.kept hr
      obtain rfl : r'=r'' := Option.some.inj (hr'.symm.trans hr'')
      rw [hway.destination]
      exact h.rows k r hr (hway.channel.symm.trans hchannel) (hkeeps hlive)
  hands hand hhand := h.hands hand (hhands hand hhand)
  found hand hhand := by
    obtain ⟨r,hr,hsame⟩ := h.found hand (hhands hand hhand)
    obtain ⟨r',hr',hway,-⟩ := hdesk.kept hr
    exact ⟨r',hr',hway.channel.trans hsame.channel,hway.destination.trans hsame.destination⟩
  tests := h.tests
  gone hand hhand := h.gone hand (hhands hand hhand)

/-- An update that leaves the addresses alone and revives nothing. -/
lemma Readdressed.update (desk : Desk) {q : ℕ → ExternalDelivery → Bool}
    {f : ExternalDelivery → ExternalDelivery} (hway : ∀ r : ExternalDelivery, r.SameWay (f r))
    (hlive : ∀ k r, desk.externalDeliveries.find k=some r → q k r → (f r).Live → r.Live) :
    Readdressed desk { desk with externalDeliveries := desk.externalDeliveries.update q f } where
  webhook := rfl
  kept {k r} hr := by
    refine ⟨_,by rw [Table.find_update,hr]; rfl,?_⟩
    dsimp only
    split_ifs with hq
    · exact ⟨hway r,hlive k r hr hq⟩
    · exact ⟨⟨rfl,rfl⟩,fun h => h⟩
  fresh {k r'} hk hr' := by
    rw [Table.find_update,hk] at hr'
    cases hr'

/-- What a save that is accepted leaves. -/
lemma saveSettings_ok {host : Host} {enabled : Bool} {name url : String} {desk desk' : Desk}
    {reply : Unit}
    (h : saveNotificationExternalDeliverySettings p host enabled name url desk=.ok (reply,desk')) :
    desk'.webhook.enabled=enabled ∧ desk'.webhook.url=strip url ∧
      desk'.externalDeliveries=if enabled then desk.externalDeliveries
        else desk.externalDeliveries.update (fun _ r => r.channel=.webhook && r.status.cancellable)
          (.cancel host.now "Webhook destination disabled") := by
  unfold saveNotificationExternalDeliverySettings at h
  dsimp only at h
  split at h
  · cases h
  split_ifs at h
  all_goals
    cases h
    simp_all

/-- A delivery that is claimed was pending. -/
lemma mem_claimEach {α : Type} {waiting : α → Bool} {claim : α → α}
    (hclaim : ∀ r, waiting (claim r)=false) {rows : List (ℕ × α)} {t : Table α} {c : ℕ × α}
    (h : c ∈ (claimEach waiting claim rows t).1) :
    ∃ r, t.find c.1=some r ∧ waiting r ∧ c.2=claim r := by
  induction rows generalizing t with
  | nil => cases h
  | cons first rows ih =>
    obtain ⟨i,_⟩ := first
    simp only [claimEach] at h
    cases hi : t.find i with
    | none =>
      rw [hi] at h
      exact ih h
    | some row =>
      rw [hi] at h
      dsimp only at h
      by_cases hw : waiting row
      · rw [if_pos hw] at h
        rcases List.mem_cons.mp h with rfl | h
        · exact ⟨row,hi,hw,rfl⟩
        · obtain ⟨r,hr,hwaiting,heq⟩ := ih h
          rw [Table.find_modify] at hr
          split_ifs at hr with hc
          · rw [hc,hi] at hr
            obtain rfl : claim row=r := Option.some.inj hr
            rw [hclaim] at hwaiting
            cases hwaiting
          · exact ⟨r,hr,hwaiting,heq⟩
      · rw [if_neg hw] at h
        exact ih h

lemma ExternalDelivery.claim_not_pending (now : ℤ) (r : ExternalDelivery) :
    decide ((r.claim now).status=.pending)=false := rfl

/-- A claim readdresses nothing, and hands out rows that were pending. -/
lemma claimExternal_ok {host : Host} {limit : ℕ} {desk desk' : Desk}
    {rows : List (ℕ × ExternalDelivery)}
    (h : claimNotificationExternalDeliveries host limit desk=.ok (rows,desk')) :
    Readdressed desk desk' ∧ ∀ c ∈ rows, ∃ r, desk.externalDeliveries.find c.1=some r ∧
      r.status=.pending ∧ c.2=r.claim host.now := by
  cases h
  refine ⟨⟨rfl,fun {k r} hr => ?_,fun {k r'} hk hr' => ?_⟩,fun c hc => ?_⟩
  · refine ⟨_,by rw [claimEach_find (ExternalDelivery.claim_not_pending host.now),hr]; rfl,?_⟩
    dsimp only
    split_ifs with hclaimed
    · refine ⟨⟨rfl,rfl⟩,fun _ => ?_⟩
      have hpending : r.status=.pending := of_decide_eq_true hclaimed.1
      exact r.status.cancellable_iff.mpr (.inl hpending)
    · exact ⟨⟨rfl,rfl⟩,fun h => h⟩
  · rw [claimEach_find (ExternalDelivery.claim_not_pending host.now),hk] at hr'
    cases hr'
  · obtain ⟨r,hr,hwaiting,heq⟩ := mem_claimEach (ExternalDelivery.claim_not_pending host.now) hc
    exact ⟨r,hr,of_decide_eq_true hwaiting,heq⟩

/-- A test is queued under the settings that it read. -/
lemma queueTestUnder_rows {host : Host} {milliseconds : ℕ} {channel : String}
    {read : WebhookSettings} {desk : Desk} :
    queueTestUnder p host milliseconds channel read desk=desk ∨
      ∃ r : ExternalDelivery, queueTestUnder p host milliseconds channel read desk=
        { desk with externalDeliveries := desk.externalDeliveries.insert r } ∧
        (r.channel=.webhook → read.enabled ∧ read.url≠"" ∧ r.destination=read.url) := by
  unfold queueTestUnder enqueueNotificationExternalTest
  dsimp only
  split_ifs with _ _ _ _ _ hset
  · exact .inl rfl
  · exact .inl rfl
  · exact .inl rfl
  · exact .inr ⟨_,rfl,fun h => by cases h⟩
  · exact .inl rfl
  · exact .inl rfl
  · rw [not_or,Bool.not_eq_false] at hset
    exact .inr ⟨_,rfl,fun _ => ⟨hset.1,hset.2,rfl⟩⟩
  · exact .inl rfl

lemma Webhooks.Settled.start : ({} : Webhooks).Settled where
  url h := by cases h
  target u h := by cases h
  stripped := by decide
  rows k r h := by
    rw [Table.find_empty] at h
    cases h
  hands hand h := by cases h
  found hand h := by cases h
  tests read h := by cases h
  gone hand h := by cases h

/-- A save keeps what is left, when nothing that may still be sent goes elsewhere. -/
lemma Webhooks.Settled.save {host : Host} {enabled : Bool} {name url : String} (h : s.Settled)
    (hsettled : (WebhookStep.save host enabled name url).SavesSettled p s) :
    ((WebhookStep.save host enabled name url).next p s).Settled := by
  unfold WebhookStep.next
  dsimp only
  cases hsave : saveNotificationExternalDeliverySettings p host enabled name url s.desk with
  | error e => exact h
  | ok result =>
    obtain ⟨reply,desk'⟩ := result
    obtain ⟨hrows,hhands,htests⟩ := hsettled (by rw [hsave]; rfl)
    obtain ⟨henabled,hurl,hqueue⟩ := saveSettings_ok hsave
    dsimp only
    cases enabled with
    | true =>
      simp only [if_true] at hqueue ⊢
      refine ⟨fun _ => congrArg some hurl.symm,fun u hu => ?_,?_,fun k r hr hc hlive => ?_,
        fun hand hhand hc => ?_,fun hand hhand => ?_,fun read hread hon hne => ?_,h.gone⟩
      · exact hurl.trans (Option.some.inj hu)
      · dsimp only
        rw [hurl,strip_strip]
      · rw [hqueue] at hr
        exact congrArg some (hrows rfl k r hr hc hlive).symm
      · obtain ⟨-,hdestination⟩ := hhands hand hhand hc
        exact ⟨congrArg some hdestination.symm,(h.hands hand hhand hc).2⟩
      · dsimp only
        rw [hqueue]
        exact h.found hand hhand
      · exact congrArg some (htests read hread hon hne).2.symm
    | false =>
      simp only [Bool.false_eq_true,if_false] at hqueue ⊢
      refine ⟨fun hon => ?_,fun u hu => (by cases hu),?_,fun k r' hr' hc hlive => ?_,
        fun hand hhand hc => ?_,fun hand hhand => ?_,fun read hread hon hne => ?_,h.gone⟩
      · rw [henabled] at hon
        cases hon
      · dsimp only
        rw [hurl,strip_strip]
      · rw [hqueue,Table.find_update,Option.map_eq_some_iff] at hr'
        obtain ⟨r,-,rfl⟩ := hr'
        split_ifs at hc hlive with hcancelled
        · cases hlive
        · refine absurd ?_ hcancelled
          rw [Bool.and_eq_true]
          exact ⟨decide_eq_true hc,hlive⟩
      · cases (hhands hand hhand hc).1
      · obtain ⟨r,hr,hsame⟩ := h.found hand hhand
        dsimp only
        rw [hqueue,Table.find_update,hr]
        refine ⟨_,rfl,?_⟩
        dsimp only
        split_ifs
        · exact ⟨hsame.channel,hsame.destination⟩
        · exact hsame
      · cases (htests read hread hon hne).1

lemma Webhooks.Settled.readSettings (h : s.Settled) :
    (WebhookStep.readSettings.next p s).Settled := by
  refine ⟨h.url,h.target,h.stripped,h.rows,h.hands,h.found,fun read hread hon hne => ?_,
    h.gone⟩
  rcases List.mem_append.mp hread with hread | hread
  · exact h.tests read hread hon hne
  · rw [List.mem_singleton.mp hread] at hon ⊢
    exact h.url hon

lemma Webhooks.Settled.queueTest {host : Host} {milliseconds : ℕ} {channel : String}
    {place : ℕ} (h : s.Settled) :
    ((WebhookStep.queueTest host milliseconds channel place).next p s).Settled := by
  unfold WebhookStep.next
  dsimp only
  cases hread : s.tests[place]? with
  | none => exact h
  | some read =>
    have hmem : read ∈ s.tests := List.mem_of_getElem? hread
    have hfewer : ({ s with tests := s.tests.eraseIdx place } : Webhooks).Settled :=
      ⟨h.url,h.target,h.stripped,h.rows,h.hands,h.found,fun read' hread' =>
        h.tests read' (List.mem_of_mem_eraseIdx hread'),h.gone⟩
    dsimp only
    rcases queueTestUnder_rows (p:=p) with heq | ⟨r,heq,hrow⟩
    · rw [heq]
      exact hfewer
    · rw [heq]
      refine ⟨h.url,h.target,h.stripped,fun k r' hr' hc hlive => ?_,h.hands,
        fun hand hhand => ?_,hfewer.tests,h.gone⟩
      · rcases Table.find_insert_cases hr' with hold | ⟨-,rfl⟩
        · exact h.rows k r' hold hc hlive
        · obtain ⟨hon,hne,hdestination⟩ := hrow hc
          rw [hdestination]
          exact h.tests read hmem hon hne
      · obtain ⟨r',hr',hsame⟩ := h.found hand hhand
        exact ⟨r',Table.find_insert_of_find hr',hsame⟩

lemma Webhooks.Settled.claim {host : Host} {limit : ℕ} (h : s.Settled) :
    ((WebhookStep.claim host limit).next p s).Settled := by
  unfold WebhookStep.next
  dsimp only
  cases hclaim : claimNotificationExternalDeliveries host limit s.desk with
  | error e => exact h
  | ok result =>
    obtain ⟨rows,desk'⟩ := result
    obtain ⟨hdesk,hrows⟩ := claimExternal_ok hclaim
    have hbefore := h.readdressed hdesk (fun hand hhand => hhand)
    refine ⟨hbefore.url,hbefore.target,hbefore.stripped,hbefore.rows,fun hand hhand hc => ?_,
      fun hand hhand => ?_,h.tests,fun hand hhand hgone => ?_⟩
    · rcases List.mem_append.mp hhand with hhand | hhand
      · exact h.hands hand hhand hc
      · obtain ⟨c,hcmem,rfl⟩ := List.mem_map.mp hhand
        obtain ⟨r,hr,hpending,heq⟩ := hrows c hcmem
        have hchannel : r.channel=.webhook := by
          have hc : c.2.channel=.webhook := hc
          rwa [heq] at hc
        have htarget := h.rows c.1 r hr hchannel (r.status.cancellable_iff.mpr (.inl hpending))
        have hdestination : c.2.destination=r.destination := by rw [heq]; rfl
        dsimp only
        rw [hdestination]
        exact ⟨htarget,htarget⟩
    · rcases List.mem_append.mp hhand with hhand | hhand
      · exact hbefore.found hand hhand
      · obtain ⟨c,hcmem,rfl⟩ := List.mem_map.mp hhand
        obtain ⟨r,hr,-,heq⟩ := hrows c hcmem
        obtain ⟨r',hr',hway,-⟩ := hdesk.kept hr
        refine ⟨r',hr',?_⟩
        dsimp only
        rw [heq]
        exact ⟨hway.channel,hway.destination⟩
    · rcases List.mem_append.mp hhand with hhand | hhand
      · exact h.gone hand hhand hgone
      · obtain ⟨c,-,rfl⟩ := List.mem_map.mp hhand
        cases hgone

lemma Webhooks.Settled.sent {host : Host} {place : ℕ} (h : s.Settled) :
    ((WebhookStep.sent host place).next p s).Settled := by
  unfold WebhookStep.next
  dsimp only
  cases hhand : s.hands[place]? with
  | none => exact h
  | some hand =>
    refine h.readdressed ?_ fun hand' hmem => List.mem_of_mem_eraseIdx hmem
    unfold completeNotificationExternalDelivery
    cases s.desk.externalDeliveries.find hand.id with
    | none => exact .of_eq rfl rfl
    | some row =>
      exact Readdressed.update s.desk (fun r => ⟨rfl,rfl⟩) fun k r _ _ hlive => by cases hlive

/-- A failure brings the row that was claimed back, with the address that it had. -/
lemma Webhooks.Settled.failed {host : Host} {place : ℕ} {error : String} {retryable gone : Bool}
    {status : Option ℤ} (h : s.Settled) :
    ((WebhookStep.failed host place error retryable status gone).next p s).Settled := by
  unfold WebhookStep.next
  dsimp only
  cases hhand : s.hands[place]? with
  | none => exact h
  | some hand =>
    have hmem : hand ∈ s.hands := List.mem_of_getElem? hhand
    obtain ⟨row,hrow,hsame⟩ := h.found hand hmem
    have hfail : (failNotificationExternalDelivery host hand.id error retryable status
        s.desk).commit s.desk={ s.desk with
          externalDeliveries := s.desk.externalDeliveries.modify hand.id
            (.fail host.now (clip (orElse error "External delivery failed") 500) retryable
              (status.getD 0)) } := by
      unfold failNotificationExternalDelivery
      simp only [hrow,Call.commit]
    dsimp only
    rw [hfail]
    have hhands : ∀ hand' ∈ (if gone=true ∧ hand.row.channel=.webhook then
        s.hands.set place { hand with retiring := true } else s.hands.eraseIdx place),
        ∃ old ∈ s.hands, hand'.id=old.id ∧ hand'.row=old.row ∧ hand'.target=old.target := by
      intro hand' hhand'
      split_ifs at hhand'
      · rcases List.mem_or_eq_of_mem_set hhand' with hold | rfl
        · exact ⟨hand',hold,rfl,rfl,rfl⟩
        · exact ⟨hand,hmem,rfl,rfl,rfl⟩
      · exact ⟨hand',List.mem_of_mem_eraseIdx hhand',rfl,rfl,rfl⟩
    refine ⟨h.url,h.target,h.stripped,fun k r' hr' hc hlive => ?_,fun hand' hhand' hc => ?_,
      fun hand' hhand' => ?_,h.tests,fun hand' hhand' hgone => ?_⟩
    · rw [Table.find_modify] at hr'
      split_ifs at hr' with hk
      · rw [hk,hrow] at hr'
        obtain rfl := Option.some.inj hr'
        have hchannel : hand.row.channel=.webhook := hsame.channel.symm.trans hc
        have htarget := (h.hands hand hmem hchannel).1
        rw [← hsame.destination] at htarget
        exact htarget
      · exact h.rows k r' hr' hc hlive
    · obtain ⟨old,hold,-,hrow',htarget'⟩ := hhands hand' hhand'
      rw [hrow'] at hc ⊢
      rw [htarget']
      exact h.hands old hold hc
    · obtain ⟨old,hold,hid,hrow',-⟩ := hhands hand' hhand'
      obtain ⟨r,hr,hway⟩ := h.found old hold
      rw [hid,hrow',Table.find_modify]
      split_ifs with hk
      · rw [hr]
        exact ⟨_,rfl,hway.channel,hway.destination⟩
      · exact ⟨r,hr,hway⟩
    · dsimp only at hhand'
      split_ifs at hhand' with hset
      · rcases List.mem_or_eq_of_mem_set hhand' with hold | rfl
        · exact h.gone hand' hold hgone
        · exact hset.2
      · exact h.gone hand' (List.mem_of_mem_eraseIdx hhand') hgone

lemma Webhooks.Settled.retire {host : Host} {place : ℕ} {reason : String} (h : s.Settled) :
    ((WebhookStep.retire host place reason).next p s).Settled := by
  unfold WebhookStep.next
  dsimp only
  cases hhand : s.hands[place]? with
  | none => exact h
  | some hand =>
    dsimp only
    split_ifs
    · have hqueue := Readdressed.update s.desk
        (q:=fun _ r => r.channel=.webhook && r.status=.pending)
        (f:=ExternalDelivery.cancel host.now (clip (orElse reason "Webhook retired") 500))
        (fun r => ⟨rfl,rfl⟩) fun k r _ _ hlive => by cases hlive
      have hsettled := h.readdressed hqueue
        (fun hand' (hmem : hand' ∈ s.hands.eraseIdx place) => List.mem_of_mem_eraseIdx hmem)
      exact ⟨fun hon => (by cases hon),hsettled.target,hsettled.stripped,hsettled.rows,
        hsettled.hands,hsettled.found,hsettled.tests,hsettled.gone⟩
    · exact h

/-- A step that respects the addresses keeps them settled. -/
theorem WebhookStep.settled {step : WebhookStep} (h : s.Settled) (hsave : step.SavesSettled p s) :
    (step.next p s).Settled := by
  cases step with
  | save host enabled name url => exact h.save hsave
  | readSettings => exact h.readSettings
  | queueTest host milliseconds channel place => exact h.queueTest
  | recover host =>
    refine h.readdressed (Readdressed.update s.desk (fun r => ⟨rfl,rfl⟩) fun k r _ hstale _ => ?_)
      fun hand hhand => hhand
    have hsending : r.status=.sending := of_decide_eq_true (Bool.and_eq_true_iff.mp hstale).1
    exact r.status.cancellable_iff.mpr (.inr hsending)
  | claim host limit => exact h.claim
  | send place => exact h
  | sent host place => exact h.sent
  | failed host place error retryable status gone => exact h.failed
  | retire host place reason => exact h.retire
  | abandon place =>
    exact h.readdressed (.of_eq rfl rfl) fun hand hmem => List.mem_of_mem_eraseIdx hmem
  | other request =>
    simp only [next]
    split_ifs with hexternal
    · exact h
    · rw [Bool.not_eq_true] at hexternal
      exact h.readdressed (request.call.commit_rewrites p request.host hexternal s.desk).readdressed
        fun hand hhand => hhand

lemma WebhookStep.respects {step : WebhookStep} (h : s.Settled) : step.Respects s := by
  cases step with
  | send place =>
    intro hand hhand hc
    exact (h.hands hand (List.mem_of_getElem? hhand) hc).2
  | retire host place reason =>
    intro hand hhand hretiring _
    have hmem : hand ∈ s.hands := List.mem_of_getElem? hhand
    exact h.target _ (h.hands hand hmem (h.gone hand hmem hretiring)).1
  | _ => trivial

end Steps

/-- The operator's changes are respected in every run in which nothing that may still be sent
goes anywhere else than the settings that are saved. -/
theorem webhooks_respected (p : Platform) (steps : List WebhookStep)
    (h : Each (WebhookStep.next p) (WebhookStep.SavesSettled p) steps {}) :
    WebhooksRespected p steps :=
  h.imp Webhooks.Settled.start (fun _ _ hs hsave => WebhookStep.settled hs hsave)
    fun _ _ hs _ => WebhookStep.respects hs

section Example

/-- A platform on which every address is one of an HTTPS host. -/
def httpsPlatform : Platform :=
  { asciiPlatform with urlsplit := fun url => .ok ⟨"https",some url,none,none⟩ }

/-- A notification that is raised. -/
def offlineNotice : NotificationArgs where
  dedupeKey := "router:offline"
  source := "router"
  eventType := "offline"
  severity := "critical"
  title := "Router offline"

/-- A notification is queued for the first webhook, which is replaced by the second one before
the worker claims it. -/
def replaced (second : String) : List WebhookStep :=
  [.save {} true "first" "https://first",.other ⟨{},.upsertNotification offlineNotice⟩,.save {} true "second" second,
    .claim {} 20,.send 0]

/-- The first webhook is replaced when its delivery is sent, the endpoint of the second one is gone,
and the third one is disabled. -/
def settledChanges : List WebhookStep :=
  [.save {} true "first" "https://first",.other ⟨{},.upsertNotification offlineNotice⟩,
    .claim {} 20,.send 0,.sent {} 0,.save {} true "second" "https://second",
    .other ⟨{},.upsertNotification { offlineNotice with dedupeKey := "router:reboot" }⟩,
    .claim {} 20,.send 0,.failed {} 0 "HTTP 410" false (some 410) true,.retire {} 0 "HTTP 410",
    .save {} true "third" "https://third",.save {} false "third" "https://third"]

/-- Settings may be saved when no delivery is in hand and those that may still be sent have the
address that is saved. -/
lemma WebhookStep.savesSettled_idle {p : Platform} {s : Webhooks} {host : Host} {enabled : Bool}
    {name url : String} (hrows : ∀ r ∈ s.desk.externalDeliveries.rows,
      r.2.status.cancellable=true → r.2.destination=strip url)
    (hhands : s.hands=[]) (htests : s.tests=[]) :
    (WebhookStep.save host enabled name url).SavesSettled p s := by
  refine fun _ => ⟨fun _ k r hr _ hlive => hrows (k,r) (Table.mem_iff.mpr hr) hlive,
    fun hand hhand => ?_,fun read hread => ?_⟩
  · rw [hhands] at hhand
    cases hhand
  · rw [htests] at hread
    cases hread

theorem webhooks_respected_changed : WebhooksRespected httpsPlatform settledChanges := by
  refine webhooks_respected httpsPlatform _ ⟨?_,trivial,trivial,trivial,trivial,?_,trivial,trivial,
    trivial,trivial,trivial,?_,?_,trivial⟩
  · exact WebhookStep.savesSettled_idle (by decide) rfl rfl
  · exact WebhookStep.savesSettled_idle (by decide) rfl rfl
  · exact WebhookStep.savesSettled_idle (by decide) rfl rfl
  · exact WebhookStep.savesSettled_idle (by decide) rfl rfl

/-- The delivery is sent to the first webhook although the operator has replaced it. -/
theorem replaced_webhook_receives :
    ¬∀ (p : Platform) (steps : List WebhookStep), WebhooksRespected p steps := by
  intro h
  have hsend := (each_iff.mp (h httpsPlatform (replaced "https://second")))
    [.save {} true "first" "https://first",.other ⟨{},.upsertNotification offlineNotice⟩,.save {} true "second" "https://second",
      .claim {} 20] (.send 0) [] rfl
  have hhand : ((after (WebhookStep.next httpsPlatform)
      [.save {} true "first" "https://first",.other ⟨{},.upsertNotification offlineNotice⟩,
        .save {} true "second" "https://second",.claim {} 20] {}).hands[0]?).map
          (fun hand => (hand.row.channel,hand.row.destination,hand.target))=
      some (.webhook,"https://first",some "https://second") := by decide
  obtain ⟨hand,hfind,hvalues⟩ := Option.map_eq_some_iff.mp hhand
  obtain ⟨hc,hd,ht⟩ : hand.row.channel=.webhook ∧ hand.row.destination="https://first" ∧
      hand.target=some "https://second" := by simpa using hvalues
  have hrespected := hsend hand hfind hc
  rw [ht,hd] at hrespected
  exact absurd hrespected (by decide)

end Example
end ZenControl.Attention
