import Purse.Proofs.Part

/-!
# Acting on behalf of one user

What acts on behalf of a user is compared in two worlds, one with the whole store and one with only the
part of the user in it. `Scope.Alike` says that it comes to the same in both: the result is the same, what
it leaves in the second world is the part of what it leaves in the first, and the parts of all other users
stay as they were. Users share nothing but the keys of the tables, so this is true of a call of the store
as long as what it brings is not in use. The rules carry it from the calls to everything built from them.
-/
namespace Purse
open Service

/-- A step may issue a reference: it is the checkout of a payment for which the gateway can make that of the
reference drawn for the step. -/
def Step.MayIssue (step : Step) (externalId : String) : Prop :=
  ∃ payment gateway redirect, step.operation = .checkout payment.id ∧
    step.gateways payment.method = some gateway ∧
    gateway.openCheckout payment step.draws.reference = .ok redirect ∧ redirect.externalId = externalId

/-- Nothing that is generated for one of two steps is generated for the other. -/
structure Step.Apart (s t : Step) : Prop where
  wallet : s.draws.walletId ≠ t.draws.walletId
  entry : s.draws.entryId ≠ t.draws.entryId
  payment : s.draws.paymentId ≠ t.draws.paymentId
  reference : ∀ e, s.MayIssue e → ¬ t.MayIssue e

/-- Two steps draw different identifiers and references. -/
structure Draws.Apart (d d' : Draws) : Prop where
  wallet : d.walletId ≠ d'.walletId
  entry : d.entryId ≠ d'.entryId
  payment : d.paymentId ≠ d'.paymentId
  reference : d.reference ≠ d'.reference

theorem Draws.apart_iff {d d' : Draws} :
    d.Apart d' ↔ d.walletId ≠ d'.walletId ∧ d.entryId ≠ d'.entryId ∧ d.paymentId ≠ d'.paymentId ∧
      d.reference ≠ d'.reference :=
  ⟨fun h => ⟨h.wallet, h.entry, h.payment, h.reference⟩, fun ⟨hw, he, hp, hr⟩ => ⟨hw, he, hp, hr⟩⟩

instance (d d' : Draws) : Decidable (d.Apart d') := decidable_of_iff _ Draws.apart_iff.symm

theorem Reference.eq_of_marked {mark mark' : String} {r r' : Reference}
    (hlength : mark.toList.length = mark'.toList.length) (h : mark ++ r.text = mark' ++ r'.text) :
    r = r' := by
  have hlist := congrArg String.toList h
  rw [String.toList_append, String.toList_append] at hlist
  have hchars := (List.append_inj hlist hlength).2
  rw [text, text, String.toList_ofList, String.toList_ofList] at hchars
  cases r
  cases r'
  simp only [Reference.mk.injEq]
  exact hchars

/-- The hosted gateways put their mark in front of the reference that is drawn. -/
theorem Step.MayIssue.of_hosted {step : Step} {baseA baseB e : String} (h : step.MayIssue e)
    (hgateways : step.gateways = .hosted baseA baseB) :
    ∃ mark : String, mark.toList.length = 3 ∧ e = mark ++ step.draws.reference.text := by
  obtain ⟨payment, gateway, redirect, -, hgateway, hredirect, rfl⟩ := h
  rw [hgateways] at hgateway
  cases hmethod : payment.method with
  | wallet => simp [hmethod, Gateways.hosted] at hgateway
  | gatewayA =>
      simp only [hmethod, Gateways.hosted, Option.some.injEq] at hgateway
      subst hgateway
      simp only [Gateway.a, Gateway.hosted] at hredirect
      split_ifs at hredirect
      cases hredirect
      exact ⟨"ga_", rfl, rfl⟩
  | gatewayB =>
      simp only [hmethod, Gateways.hosted, Option.some.injEq] at hgateway
      subst hgateway
      simp only [Gateway.b, Gateway.hosted] at hredirect
      split_ifs at hredirect
      cases hredirect
      exact ⟨"gb_", rfl, rfl⟩

/-- With the hosted gateways it is enough that different things are drawn. -/
theorem Step.pairwise_apart_of_hosted {baseA baseB : String} {run : List Step}
    (hgateways : ∀ step ∈ run, step.gateways = .hosted baseA baseB)
    (hdraws : (run.map Step.draws).Pairwise Draws.Apart) : run.Pairwise Step.Apart := by
  refine (List.pairwise_map.1 hdraws).imp_of_mem fun {s t} hs ht h => ?_
  refine ⟨h.wallet, h.entry, h.payment, fun e hissue hissue' => h.reference ?_⟩
  obtain ⟨mark, hmark, rfl⟩ := hissue.of_hosted (hgateways s hs)
  obtain ⟨mark', hmark', heq⟩ := hissue'.of_hosted (hgateways t ht)
  exact Reference.eq_of_marked (hmark.trans hmark'.symm) heq

/-- The identifiers that are drawn for a posting are not in use. -/
structure Books.CanPost (b : Books) (draws : Draws) : Prop where
  wallet : ∀ w ∈ b.wallets, w.id ≠ draws.walletId
  entry : ∀ e ∈ b.entries, e.id ≠ draws.entryId

/-- Nothing that is generated for a step is in use. -/
structure Books.Fresh (b : Books) (step : Step) : Prop extends b.CanPost step.draws where
  payment : ∀ p ∈ b.payments, p.id ≠ step.draws.paymentId
  reference : ∀ p ∈ b.payments, ∀ e, p.externalId = some e → ¬ step.MayIssue e

/-- What a service is confined to: the user on whose behalf it acts, with what a step generates, in a
store of some precision. -/
structure Scope where
  step : Step
  user : UserId
  precision : Precision

namespace Scope

/-- A change of the books within the scope: the parts of other users are the same, and whatever is
generated for other steps is not in use unless it was before. -/
structure Within (c : Scope) (b b' : Books) : Prop where
  others : ∀ other, other ≠ c.user → b'.only other = b.only other
  fresh : ∀ step, c.step.Apart step → b.Fresh step → b'.Fresh step

/-- A service has the same answer or error on some books as on the part of the user in them, and leaves
other books and the part of the user in those. -/
structure Alike {α : Type} (c : Scope) (x : Service α) (b : Books) (r : Except ServiceError α)
    (b' : Books) : Prop where
  whole : observe x ⟨b.store c.precision, []⟩ = .ok r ⟨b'.store c.precision, []⟩
  part : observe x ⟨(b.only c.user).store c.precision, []⟩ =
    .ok r ⟨(b'.only c.user).store c.precision, []⟩
  within : c.Within b b'

def Confined {α : Type} (c : Scope) (x : Service α) (b : Books) : Prop := ∃ r b', c.Alike x b r b'

variable {α β : Type} {c : Scope} {b b' b'' : Books} {x : Service α} {f : α → Service β} {a : α}

/-! ## Rules -/

theorem Within.refl (b : Books) : c.Within b b := ⟨fun _ _ => rfl, fun _ _ h => h⟩

theorem Within.trans (h : c.Within b b') (h' : c.Within b' b'') : c.Within b b'' where
  others other hne := (h'.others other hne).trans (h.others other hne)
  fresh step hapart hfresh := h'.fresh step hapart (h.fresh step hapart hfresh)

/-- Payments of other users come from nowhere. -/
theorem Within.userId_eq (h : c.Within b b') {id : PaymentId}
    (howner : ∀ p ∈ b.payments, p.id = id → p.userId = c.user) {q : Payment} (hq : q ∈ b'.payments)
    (hid : q.id = id) : q.userId = c.user := by
  by_contra hne
  have hother : q ∈ (b'.only q.userId).payments := Books.mem_payments_only.2 ⟨hq, rfl⟩
  rw [h.others q.userId hne] at hother
  exact hne (howner q (Books.mem_payments_only.1 hother).1 hid)

theorem Alike.confined {r : Except ServiceError α} (h : c.Alike x b r b') : c.Confined x b := ⟨r, b', h⟩

theorem Alike.ok (h : c.Alike x b (.ok a) b') :
    x ⟨b.store c.precision, []⟩ = .ok a ⟨b'.store c.precision, []⟩ :=
  observe_eq_ok.1 h.whole

/-- Without changes the two worlds need to be compared in the result only. -/
theorem Alike.of_same {r : Except ServiceError α}
    (h : observe x ⟨b.store c.precision, []⟩ = .ok r ⟨b.store c.precision, []⟩)
    (h' : observe x ⟨(b.only c.user).store c.precision, []⟩ =
      .ok r ⟨(b.only c.user).store c.precision, []⟩) : c.Alike x b r b :=
  ⟨h, h', .refl b⟩

theorem confined_pure (a : α) : c.Confined (pure a : Service α) b := ⟨.ok a, b, .of_same rfl rfl⟩

theorem confined_throw (error : ServiceError) : c.Confined (throw error : Service α) b :=
  ⟨.error error, b, .of_same rfl rfl⟩

theorem confined_throw_bind (error : ServiceError) : c.Confined (throw error >>= f) b :=
  ⟨.error error, b, .of_same rfl rfl⟩

theorem confined_ledger (x : Except LedgerError α) : c.Confined (liftM x : Service α) b := by
  cases x with
  | ok a => exact ⟨.ok a, b, .of_same rfl rfl⟩
  | error cause => exact ⟨.error (.ofLedger cause), b, .of_same rfl rfl⟩

theorem Alike.of_ledger {x : Except LedgerError α} (h : c.Alike (liftM x : Service α) b (.ok a) b') :
    x = .ok a ∧ b' = b := by
  obtain ⟨hx, hw⟩ := liftLedger_eq_ok.1 h.ok
  exact ⟨hx, (Books.store_injective (World.mk.inj hw).1).symm⟩

theorem confined_gateway (x : Except GatewayError α) : c.Confined (liftM x : Service α) b := by
  cases x with
  | ok a => exact ⟨.ok a, b, .of_same rfl rfl⟩
  | error cause => exact ⟨.error (.ofGateway cause), b, .of_same rfl rfl⟩

theorem Alike.of_gateway {x : Except GatewayError α} (h : c.Alike (liftM x : Service α) b (.ok a) b') :
    x = .ok a ∧ b' = b := by
  obtain ⟨hx, hw⟩ := liftGateway_eq_ok.1 h.ok
  exact ⟨hx, (Books.store_injective (World.mk.inj hw).1).symm⟩

theorem Alike.bind (h : c.Alike x b (.ok a) b')
    (hf : c.Confined (f a) b') : c.Confined (x >>= f) b := by
  obtain ⟨r, b'', h'⟩ := hf
  refine ⟨r, b'', ?_, ?_, h.within.trans h'.within⟩
  · exact observe_bind_ok h.whole h'.whole
  · exact observe_bind_ok h.part h'.part

theorem Confined.bind (hx : c.Confined x b)
    (hf : ∀ a b', c.Alike x b (.ok a) b' → c.Confined (f a) b') : c.Confined (x >>= f) b := by
  obtain ⟨r, b', h⟩ := hx
  cases r with
  | error error =>
      refine ⟨.error error, b', ?_, ?_, h.within⟩
      · exact observe_bind_error h.whole
      · exact observe_bind_error h.part
  | ok a => exact h.bind (hf a b' h)

theorem Confined.map (hx : c.Confined x b) (g : α → β) : c.Confined (g <$> x) b := by
  rw [map_eq_pure_bind]
  exact hx.bind fun a _ _ => confined_pure (g a)

theorem Confined.observe (hx : c.Confined x b) : c.Confined (Service.observe x) b := by
  obtain ⟨r, b', h⟩ := hx
  refine ⟨.ok r, b', ?_, ?_, h.within⟩
  · exact observe_eq_ok.2 h.whole
  · exact observe_eq_ok.2 h.part

theorem Alike.of_observe {r : Except ServiceError α} (h : c.Alike (Service.observe x) b (.ok r) b') :
    c.Alike x b r b' :=
  ⟨observe_eq_ok.1 h.whole, observe_eq_ok.1 h.part, h.within⟩

theorem Confined.unitOfWork {body : Service (Ending α)} (h : c.Confined body b) :
    c.Confined (Service.unitOfWork body) b := by
  obtain ⟨r, b', h⟩ := h
  cases r with
  | error error =>
      refine ⟨.error error, b, .of_same ?_ ?_⟩
      · exact observe_eq_error.2 (unitOfWork_error (observe_eq_error.1 h.whole))
      · exact observe_eq_error.2 (unitOfWork_error (observe_eq_error.1 h.part))
  | ok ending =>
      cases ending with
      | discard a =>
          refine ⟨.ok a, b, .of_same ?_ ?_⟩
          · exact observe_eq_ok.2 (unitOfWork_discard (observe_eq_ok.1 h.whole))
          · exact observe_eq_ok.2 (unitOfWork_discard (observe_eq_ok.1 h.part))
      | keep a =>
          refine ⟨.ok a, b', ?_, ?_, h.within⟩
          · exact observe_eq_ok.2 (unitOfWork_keep (observe_eq_ok.1 h.whole))
          · exact observe_eq_ok.2 (unitOfWork_keep (observe_eq_ok.1 h.part))

/-! ## Calls of the store -/

theorem alike_look {call : StoreCall} {query : Store → Except StoreError α}
    (h : query (b.store c.precision) = .ok a) (h' : query ((b.only c.user).store c.precision) = .ok a) :
    c.Alike (liftM (World.look call query)) b (.ok a) b :=
  .of_same (observe_eq_ok.2 (look_of_ok h)) (observe_eq_ok.2 (look_of_ok h'))

theorem alike_attempt {call : StoreCall} {step : Store → Except StoreError (α × Store)}
    (h : step (b.store c.precision) = .ok (a, b'.store c.precision))
    (h' : step ((b.only c.user).store c.precision) = .ok (a, b''.store c.precision))
    (honly : b'.only c.user = b'') (within : c.Within b b') :
    c.Alike (liftM (World.attempt call step)) b (.ok a) b' := by
  subst honly
  refine ⟨?_, ?_, within⟩
  · exact observe_eq_ok.2 (liftStore_eq_ok.2 (World.attempt_eq_ok h))
  · exact observe_eq_ok.2 (liftStore_eq_ok.2 (World.attempt_eq_ok h'))

theorem alike_write {call : StoreCall} {change : Store → Except StoreError Store}
    (h : change (b.store c.precision) = .ok (b'.store c.precision))
    (h' : change ((b.only c.user).store c.precision) = .ok (b''.store c.precision))
    (honly : b'.only c.user = b'') (within : c.Within b b') :
    c.Alike (liftM (World.write call change)) b (.ok ()) b' :=
  alike_attempt (by rw [h]; rfl) (by rw [h']; rfl) honly within

section Wallets
variable {v w : Wallet} {e : Entry} {balance : Int}

theorem within_addWallet (huser : w.userId = c.user) (hid : w.id = c.step.draws.walletId) :
    c.Within b (b.addWallet w) where
  others other hne := Books.only_addWallet_of_ne fun h => hne (h.symm.trans huser)
  fresh step hapart hfresh := {
    wallet := by
      intro v hv
      rcases List.mem_cons.1 hv with rfl | hv
      · exact hid ▸ hapart.wallet
      · exact hfresh.wallet v hv
    entry := hfresh.entry
    payment := hfresh.payment
    reference := hfresh.reference }

theorem within_putWallet (hb : b.Sound) (hv : v ∈ b.wallets) (hid : v.id = w.id)
    (huser : v.userId = w.userId) (howner : w.userId = c.user) : c.Within b (b.putWallet w) where
  others other hne := by
    refine Books.only_putWallet_of_ne (fun r hr hr' => ?_) fun h => hne (h.symm.trans howner)
    rw [hb.eq_of_walletId hr hv (hr'.trans hid.symm), huser]
  fresh step hapart hfresh := {
    wallet := by
      intro r hr
      rcases Keyed.mem_put.1 hr with ⟨hr, -⟩ | ⟨rfl, -⟩
      · exact hfresh.wallet r hr
      · exact hid ▸ hfresh.wallet v hv
    entry := hfresh.entry
    payment := hfresh.payment
    reference := hfresh.reference }

theorem within_addEntry (nodup : (b.wallets.map (·.id)).Nodup) (howns : b.Owns c.user e.walletId)
    (hid : e.id = c.step.draws.entryId) : c.Within b (b.addEntry e) where
  others other hne := by
    obtain ⟨w, hw, huser, hwid⟩ := howns
    refine Books.only_addEntry_of_not ?_
    rintro ⟨v, hv, hvuser, hvid⟩
    rw [List.inj_on_of_nodup_map nodup hv hw (hvid.trans hwid.symm), huser] at hvuser
    exact hne hvuser.symm
  fresh step hapart hfresh := {
    wallet := hfresh.wallet
    entry := by
      intro f hf
      rcases List.mem_cons.1 hf with rfl | hf
      · exact hid ▸ hapart.entry
      · exact hfresh.entry f hf
    payment := hfresh.payment
    reference := hfresh.reference }

/-- A wallet that is opened for the occasion has an identifier that no entry names yet. -/
theorem confined_opening {call : StoreCall} {now : Timestamp} (hb : b.Sound)
    (hpost : b.CanPost c.step.draws) :
    c.Confined (liftM (World.attempt call (·.openWallet c.user c.step.draws.walletId now))) b := by
  by_cases hhas : ∃ w ∈ b.wallets, w.userId = c.user
  · obtain ⟨w, hw, huser⟩ := hhas
    have hpart := (hb.only c.user).openWallet_found c.precision
      (Books.mem_wallets_only.2 ⟨hw, huser⟩) c.step.draws.walletId now
    have hwhole := hb.openWallet_found c.precision hw c.step.draws.walletId now
    rw [huser] at hwhole hpart
    exact (alike_attempt hwhole hpart rfl (.refl b)).confined
  · have huser (w : Wallet) (hw : w ∈ b.wallets) : w.userId ≠ c.user := fun h => hhas ⟨w, hw, h⟩
    have unused (e : Entry) (he : e ∈ b.entries) : e.walletId ≠ c.step.draws.walletId := by
      obtain ⟨w, hw, hid⟩ := hb.entryWallets e he
      exact hid ▸ hpost.wallet w hw
    have hwhole := Books.openWallet_new c.precision huser hpost.wallet now
    have hpart := Books.openWallet_new c.precision (b := b.only c.user)
      (fun w hw => huser w (Books.mem_wallets_only.1 hw).1)
      (fun w hw => hpost.wallet w (Books.mem_wallets_only.1 hw).1) now
    exact (alike_attempt hwhole hpart (Books.only_addWallet rfl unused)
      (within_addWallet rfl rfl)).confined

theorem alike_saveWallet (hb : b.Sound) (hw : w ∈ b.wallets) (huser : w.userId = c.user)
    (hbalance : 0 ≤ balance) (now : Timestamp) :
    c.Alike (liftM (World.saveWallet { w with balance, updatedAt := now })) b (.ok ())
      (b.putWallet { w with balance, updatedAt := c.precision.cut now }) := by
  have hpart := (hb.only c.user).saveWallet_eq c.precision (Books.mem_wallets_only.2 ⟨hw, huser⟩)
    hbalance now
  refine alike_write (hb.saveWallet_eq c.precision hw hbalance now) hpart ?_
    (within_putWallet hb hw rfl rfl huser)
  exact Books.only_putWallet fun v hv hid => by rw [hb.eq_of_walletId hv hw hid]

theorem alike_appendEntry (nodup : (b.wallets.map (·.id)).Nodup)
    (hfresh : ∀ f ∈ b.entries, f.id ≠ e.id) (hid : e.id = c.step.draws.entryId)
    (howns : b.Owns c.user e.walletId) :
    c.Alike (liftM (World.appendEntry e)) b (.ok ())
      (b.addEntry { e with createdAt := c.precision.cut e.createdAt }) := by
  obtain ⟨w, hw, huser, hwid⟩ := howns
  have hpart := Books.appendEntry_eq c.precision (b := b.only c.user)
    (fun f hf => hfresh f (Books.mem_entries_only.1 hf).1)
    ⟨w, Books.mem_wallets_only.2 ⟨hw, huser⟩, hwid⟩
  exact alike_write (Books.appendEntry_eq c.precision hfresh ⟨w, hw, hwid⟩) hpart
    (Books.only_addEntry ⟨w, hw, huser, hwid⟩) (within_addEntry nodup ⟨w, hw, huser, hwid⟩ hid)

end Wallets

section Payments
variable {p q : Payment} {id : PaymentId}

theorem within_addPayment (huser : p.userId = c.user) (hid : p.id = c.step.draws.paymentId)
    (hnone : p.externalId = none) : c.Within b (b.addPayment p) where
  others other hne := Books.only_addPayment_of_ne fun h => hne (h.symm.trans huser)
  fresh step hapart hfresh := {
    wallet := hfresh.wallet
    entry := hfresh.entry
    payment := by
      intro r hr
      rcases List.mem_cons.1 hr with rfl | hr
      · exact hid ▸ hapart.payment
      · exact hfresh.payment r hr
    reference := by
      intro r hr e he
      rcases List.mem_cons.1 hr with rfl | hr
      · simp [hnone] at he
      · exact hfresh.reference r hr e he }

/-- A new record of a stored payment of the user, on the same terms. Its reference is the old one, or one
that the step issues and nobody has. -/
structure Replaces (c : Scope) (b : Books) (p q : Payment) : Prop where
  mem : p ∈ b.payments
  owner : p.userId = c.user
  terms : p.SameTerms q
  reference : ∀ e, q.externalId = some e →
    p.externalId = some e ∨ c.step.MayIssue e ∧ ∀ r ∈ b.payments, r.externalId ≠ some e

theorem Replaces.redated (h : c.Replaces b p q) (now : Timestamp) :
    c.Replaces b p { q with updatedAt := now } where
  mem := h.mem
  owner := h.owner
  terms := ⟨h.terms.id, h.terms.userId, h.terms.bookingId, h.terms.amount, h.terms.method,
    h.terms.createdAt⟩
  reference := h.reference

theorem Replaces.of_payments_eq (h : c.Replaces b p q) (hpayments : b'.payments = b.payments) :
    c.Replaces b' p q where
  mem := hpayments ▸ h.mem
  owner := h.owner
  terms := h.terms
  reference := hpayments ▸ h.reference

theorem Replaces.of_status (hp : p ∈ b.payments) (howner : p.userId = c.user) (status : PaymentStatus)
    (errorMessage : Option String) (updatedAt : Timestamp) :
    c.Replaces b p { p with status, errorMessage, updatedAt } where
  mem := hp
  owner := howner
  terms := ⟨rfl, rfl, rfl, rfl, rfl, rfl⟩
  reference _ he := .inl he

theorem Replaces.userId_eq (h : c.Replaces b p q) (hb : b.Sound) {r : Payment} (hr : r ∈ b.payments)
    (hid : r.id = q.id) : r.userId = q.userId := by
  rw [hb.eq_of_id hr h.mem (hid.trans h.terms.id), h.terms.userId]

theorem Replaces.within (h : c.Replaces b p q) (hb : b.Sound) : c.Within b (b.putPayment q) where
  others other hne :=
    Books.only_putPayment_of_ne (fun _ hr hid => h.userId_eq hb hr hid)
      fun heq => hne (heq.symm.trans (h.terms.userId.trans h.owner))
  fresh step hapart hfresh := {
    wallet := hfresh.wallet
    entry := hfresh.entry
    payment := by
      intro r hr
      rcases Books.mem_putPayment.1 hr with ⟨hr, -⟩ | ⟨rfl, -⟩
      · exact hfresh.payment r hr
      · exact h.terms.id ▸ hfresh.payment p h.mem
    reference := by
      intro r hr e he
      rcases Books.mem_putPayment.1 hr with ⟨hr, -⟩ | ⟨rfl, -⟩
      · exact hfresh.reference r hr e he
      · rcases h.reference e he with hold | ⟨hissue, -⟩
        · exact hfresh.reference p h.mem e hold
        · exact hapart.reference e hissue }

theorem Replaces.unique (h : c.Replaces b p q) (hb : b.Sound) {r : Payment} (hr : r ∈ b.payments)
    (hsome : q.externalId.isSome) (he : r.externalId = q.externalId) : r.id = q.id := by
  obtain ⟨e, hq⟩ := Option.isSome_iff_exists.1 hsome
  rcases h.reference e hq with hold | ⟨-, hfree⟩
  · have hid := hb.references p h.mem r hr (by simp [hold]) (he.trans (hq.trans hold.symm))
    exact hid.trans h.terms.id.symm
  · exact absurd (he.trans hq) (hfree r hr)

theorem Replaces.alike (h : c.Replaces b p q) (hb : b.Sound) :
    c.Alike (liftM (World.savePayment q)) b (.ok ())
      (b.putPayment { q with updatedAt := c.precision.cut q.updatedAt }) := by
  have hpart := (hb.only c.user).savePayment_eq c.precision (Books.mem_payments_only.2 ⟨h.mem, h.owner⟩)
    h.terms fun r hr => h.unique hb (Books.mem_payments_only.1 hr).1
  have hredated := h.redated (c.precision.cut q.updatedAt)
  exact alike_write (hb.savePayment_eq c.precision h.mem h.terms fun r hr => h.unique hb hr) hpart
    (Books.only_putPayment fun r hr hid => hredated.userId_eq hb hr hid) (hredated.within hb)

theorem alike_insertPayment (huser : p.userId = c.user) (hid : p.id = c.step.draws.paymentId)
    (hnone : p.externalId = none) (hfresh : ∀ q ∈ b.payments, q.id ≠ c.step.draws.paymentId) :
    c.Alike (liftM (World.insertPayment p)) b (.ok ()) (b.addPayment { p with
      createdAt := c.precision.cut p.createdAt, updatedAt := c.precision.cut p.updatedAt }) := by
  rw [← hid] at hfresh
  have hpart := Books.insertPayment_eq c.precision (b := b.only c.user) hnone
    fun q hq => hfresh q (Books.mem_payments_only.1 hq).1
  exact alike_write (Books.insertPayment_eq c.precision hnone hfresh) hpart
    (Books.only_addPayment huser) (within_addPayment huser hid hnone)

/-- A payment that can only be the user's is looked up with the same result. -/
theorem confined_lookup (call : StoreCall) (howner : ∀ p ∈ b.payments, p.id = id → p.userId = c.user) :
    c.Confined (do
      match ← World.look call (·.findPayment id) with
      | some payment => return payment
      | none => throw (.paymentNotFound id.text) : Service Payment) b := by
  have hpart : ((b.only c.user).store c.precision).findPayment id = _ := Books.findPayment_store id
  rw [Books.find?_payments_only fun p hp hid => howner p hp (of_decide_eq_true hid)] at hpart
  refine (alike_look (Books.findPayment_store id) hpart).bind ?_
  cases b.payments.find? (·.id = id) with
  | none => exact confined_throw _
  | some p => exact confined_pure p

end Payments

end Scope
end Purse
