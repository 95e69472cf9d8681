import Purse.Proofs.Numeral
import Purse.Proofs.Scope

/-!
# Moving a user's money

The four operations that move money on no payment's account share one way to do it, and what they answer
is decided by the amount, the user's balance and the direction alone. A deposit or a refund of a booking
is refused only if the balance would exceed the limit of sums, a withdrawal or the charge of a booking
only if the balance is too small, and either only for an amount that is not positive, which is noticed
before any call of the store. A refusal leaves no trace, not even an opened wallet. What is accepted moves
the balance by the amount, is shown first in the user's history, and leaves everything else as it was.

The statements are about stores that a run has left, at a time when no call fails and the identifiers that
are drawn are not in use. A store may keep less of a point in time than an answer shows; `Entry.keptAt` is
the entry as the store keeps it.
-/
namespace Purse
open Service

/-- An entry as it is kept. -/
def Entry.keptAt (precision : Precision) (e : Entry) : Entry :=
  { e with createdAt := precision.cut e.createdAt }

/-- The part of a posting that the balance decides: why it is refused, if it is. -/
def Posting.refusal? (posting : Posting) (balance : Int) : Option LedgerError :=
  match posting.kind.direction with
  | .credit => if maxSum < balance + posting.amount.value then some .balanceOverflow else none
  | .debit =>
    if balance < posting.amount.value then some (.insufficientBalance balance posting.amount.value)
    else none

namespace Store

/-- A user's balance, which is zero without a wallet. -/
def userBalance (s : Store) (user : UserId) : Int := ((s.walletOf? user).map (·.balance)).getD 0

/-- The identifiers that are drawn for a posting are not in use. -/
structure CanPost (s : Store) (draws : Draws) : Prop where
  wallet : ∀ row ∈ s.wallets, row.id ≠ draws.walletId
  entry : ∀ row ∈ s.entries, row.id ≠ draws.entryId

/-- The second store has one more entry than the first, which is the first of the user's history; the
user's balance has moved by it, in the wallet that was there if there was one; and the wallets of all
others are the same. -/
structure Enters (s t : Store) (user : UserId) (e : Entry) : Prop where
  precision : t.precision = s.precision
  entries : t.entries = .ofEntry e :: s.entries
  history : ∃ es, s.HasHistory user es ∧ t.HasHistory user (e :: es)
  balance : t.userBalance user = s.userBalance user + e.signedAmount
  wallet : ∃ row, t.wallets.filter (·.userId = user) = [row] ∧ row.id = e.walletId ∧
    ∀ old, s.walletOf? user = some old → row.identity = old.identity
  others : t.wallets.filter (·.userId ≠ user) = s.wallets.filter (·.userId ≠ user)

end Store

/-! ## Amounts and balances -/

/-- An integer of 64 bits is an amount exactly if it is positive. -/
theorem Amount.exists_of_pos {n : Int} (hword : Numeral.isWord n) (h : 0 < n) :
    ∃ a, Amount.ofInt n = .ok a ∧ a.value = n := by
  rw [Numeral.isWord_iff] at hword
  exact ⟨_, dif_pos ⟨h, hword.2⟩, rfl⟩

/-- Otherwise it is refused before anything else is done. -/
theorem Service.checked_refused {α : Type} {n : Int} (h : n ≤ 0) (rest : Amount → Service α) (w : World) :
    (do let amount ← Amount.ofInt n; rest amount : Service α) w = .error (.invalidAmount n) w := by
  have hrefused : Amount.ofInt n = .error (.invalidAmount n) := dif_neg fun hpos => by omega
  rw [hrefused]
  rfl

theorem Service.checked_accepted {α : Type} {n : Int} {a : Amount} (h : Amount.ofInt n = .ok a)
    (rest : Amount → Service α) :
    (do let amount ← Amount.ofInt n; rest amount : Service α) = rest a := by
  rw [h]
  rfl

theorem Wallet.move_eq (w : Wallet) (posting : Posting) (now : Timestamp) :
    w.move posting.kind.direction posting.amount now =
      match posting.refusal? w.balance with
      | some cause => .error cause
      | none => .ok { w with balance := w.balance + posting.signedAmount, updatedAt := now } := by
  unfold Posting.refusal? Posting.signedAmount
  cases posting.kind.direction with
  | credit =>
      simp only [move, credit, Direction.signed]
      split_ifs <;> rfl
  | debit =>
      by_cases h : w.balance < posting.amount.value
      · simp [move, debit, hasSufficientBalance, h]
      · simp [move, debit, hasSufficientBalance, Int.not_lt.1 h, h, Direction.signed, Int.sub_eq_add_neg]

namespace Books

variable {b b' c : Books} {user : UserId} {w : Wallet} {posting : Posting} {e : Entry} {draws : Draws}
  {precision : Precision}

theorem canPost_of_store (h : (b.store precision).CanPost draws) : b.CanPost draws where
  wallet _ hw := h.wallet _ (List.mem_map_of_mem hw)
  entry _ he := h.entry _ (List.mem_map_of_mem he)

theorem Sound.userBalance_eq (hb : b.Sound) (hw : w ∈ b.wallets) :
    (b.store precision).userBalance w.userId = w.balance := by
  rw [Store.userBalance, hb.walletOf? hw]
  rfl

theorem userBalance_eq_zero (h : ∀ w ∈ b.wallets, w.userId ≠ user) :
    (b.store precision).userBalance user = 0 := by
  rw [Store.userBalance, walletOf?_store, List.find?_eq_none.2 fun w hw => by simpa using h w hw]
  rfl

theorem Sound.userBalance_bounds (hb : b.Sound) (precision : Precision) (user : UserId) :
    0 ≤ (b.store precision).userBalance user ∧ (b.store precision).userBalance user ≤ maxSum := by
  by_cases h : ∃ w ∈ b.wallets, w.userId = user
  · obtain ⟨w, hw, rfl⟩ := h
    rw [hb.userBalance_eq hw]
    exact hb.balances w hw
  · rw [userBalance_eq_zero fun w hw heq => h ⟨w, hw, heq⟩]
    decide

theorem Opened.userBalance_eq (h : b.Opened user w b') (hb : b.Sound) :
    (b.store precision).userBalance user = w.balance := by
  cases h with
  | found hw huser => rw [← huser, hb.userBalance_eq hw]
  | opened id now huser _ => exact userBalance_eq_zero huser

/-- With an identifier that is not in use everybody can have a wallet. -/
theorem Sound.exists_opening (hb : b.Sound) (hfresh : b.CanPost draws) (precision : Precision)
    (user : UserId) :
    ∃ w b₀, (b.store precision).openWallet user draws.walletId draws.openedAt =
        .ok (w, b₀.store precision) ∧ b.Opened user w b₀ := by
  by_cases h : ∃ w ∈ b.wallets, w.userId = user
  · obtain ⟨w, hw, rfl⟩ := h
    exact ⟨w, b, hb.openWallet_found precision hw draws.walletId draws.openedAt, .found hw rfl⟩
  · have huser (w : Wallet) (hw : w ∈ b.wallets) : w.userId ≠ user := fun heq => h ⟨w, hw, heq⟩
    exact ⟨_, _, openWallet_new precision huser hfresh.wallet draws.openedAt,
      .opened draws.walletId _ huser hfresh.wallet⟩

/-! ## What a posting leaves -/

theorem Posted.wallets_others (h : b.Posted user posting e b') (hb : b.Sound) :
    b'.wallets.filter (·.userId ≠ user) = b.wallets.filter (·.userId ≠ user) := by
  obtain ⟨id, moved, recorded, hopen, -, -, -⟩ := h
  rename_i w b₀
  have h₀ := hopen.sound hb
  have hopened : b₀.wallets.filter (·.userId ≠ user) = b.wallets.filter (·.userId ≠ user) := by
    cases hopen with
    | found _ _ => rfl
    | opened id now _ _ => exact List.filter_cons_of_neg (by simp [Wallet.opened])
  simp only [addEntry, putWallet]
  rw [← hopened, Keyed.filter_put fun v hv hid => by rw [h₀.eq_of_walletId hv hopen.mem hid]]
  -- None of the wallets of other users is the one that was saved.
  apply Keyed.put_eq_self
  intro v hv hid
  obtain ⟨hv, huser⟩ := List.mem_filter.1 hv
  rw [h₀.eq_of_walletId hv hopen.mem hid, hopen.userId_eq] at huser
  simp at huser

/-- The wallet of the user has moved by the posting, and is the one that was there if there was one. -/
theorem Posted.wallet_moved (h : b.Posted user posting e b') (hb : b.Sound) (precision : Precision) :
    ∃ v ∈ b'.wallets, v.userId = user ∧ v.id = e.walletId ∧
      v.balance = (b.store precision).userBalance user + e.signedAmount ∧
      ∀ old ∈ b.wallets, old.userId = user → v.identity = old.identity := by
  obtain ⟨id, moved, recorded, hopen, -, -, -⟩ := h
  rename_i w b₀
  refine ⟨_, Keyed.mem_put.2 (.inr ⟨rfl, w, hopen.mem, rfl⟩), hopen.userId_eq, rfl, ?_, ?_⟩
  · rw [hopen.userBalance_eq hb]
    rfl
  · intro old hold huser
    have hsame : old.userId = w.userId := huser.trans hopen.userId_eq.symm
    have h₀ := hopen.sound hb
    obtain rfl := List.inj_on_of_nodup_map h₀.walletUsers (hopen.mono hold) hopen.mem hsame
    rfl

theorem Sound.history_eq (hb : b.Sound) (hw : w ∈ b.wallets) :
    b.history w.userId = b.entries.filter (·.walletId = w.id) := by
  rw [history, Keyed.find?_key hb.walletUsers hw]

theorem history_eq_nil (h : ∀ w ∈ b.wallets, w.userId ≠ user) : b.history user = [] := by
  rw [history, List.find?_eq_none.2 fun w hw => by simpa using h w hw]

/-- The entries of a wallet that is found or opened are the user's history; a new wallet has none. -/
theorem Opened.history_eq (h : b.Opened user w b') (hb : b.Sound) :
    b.entries.filter (·.walletId = w.id) = b.history user := by
  cases h with
  | found hw huser => rw [← huser, hb.history_eq hw]
  | opened id now huser hid =>
      rw [history_eq_nil huser]
      apply List.filter_eq_nil_iff.2
      intro e he
      obtain ⟨v, hv, hvid⟩ := hb.entryWallets e he
      simpa [Wallet.opened, ← hvid] using hid v hv

theorem Posted.history_eq (h : b.Posted user posting e b') (hb : b.Sound) :
    b'.history user = e :: b.history user := by
  have hb' := h.sound hb
  obtain ⟨v, hv, huser, hid, -⟩ := h.wallet_moved hb .nanosecond
  have hold : b.entries.filter (·.walletId = e.walletId) = b.history user := by
    obtain ⟨id, moved, recorded, hopen, -, -, -⟩ := h
    exact hopen.history_eq hb
  rw [← huser, hb'.history_eq hv, h.entries_eq, hid, List.filter_cons_of_pos (by simp), hold, huser]

/-- A posting was entered for a user if the wallets and the entries are those after it, whatever else has
become of the books. -/
theorem Posted.enters (h : b.Posted user posting e b') (hb : b.Sound) (hc : c.Sound)
    (hwallets : c.wallets = b'.wallets) (hentries : c.entries = b'.entries) (precision : Precision) :
    (b.store precision).Enters (c.store precision) user e := by
  obtain ⟨v, hv, huser, hid, hbalance, hold⟩ := h.wallet_moved hb precision
  rw [← hwallets] at hv
  constructor
  case precision => rfl
  case entries => exact entries_store_cons (hentries.trans h.entries_eq)
  case history =>
      have hhistory : c.history user = e :: b.history user := by
        rw [← h.history_eq hb, history, history, hwallets, hentries]
      exact ⟨_, hb.hasHistory, hhistory ▸ hc.hasHistory⟩
  case balance => rw [← huser, hc.userBalance_eq hv, hbalance, huser]
  case wallet =>
      refine ⟨.ofWallet v, ?_, hid, ?_⟩
      · have hown := Keyed.filter_key hc.walletUsers hv
        rw [huser] at hown
        simp only [store, List.filter_map]
        exact congrArg _ hown
      · intro row hrow
        rw [walletOf?_store] at hrow
        obtain ⟨old, hfind, rfl⟩ := Option.map_eq_some_iff.1 hrow
        exact hold old (List.mem_of_find?_eq_some hfind) (by simpa using List.find?_some hfind)
  case others =>
      simp only [store, List.filter_map, hwallets]
      exact congrArg _ (h.wallets_others hb)

end Books

/-! ## Entering a posting where no call fails -/

namespace Ledger

variable {b : Books} {user : UserId} {posting : Posting} {draws : Draws} {precision : Precision}

/-- A posting that the balance does not rule out is entered. -/
theorem post_granted (hb : b.Sound) (hfresh : b.CanPost draws)
    (h : posting.refusal? ((b.store precision).userBalance user) = none) :
    ∃ e b', post draws user posting ⟨b.store precision, []⟩ = .ok e ⟨b'.store precision, []⟩ ∧
      e = .record draws.entryId e.walletId posting draws.recordedAt ∧
      b.Posted user posting (e.keptAt precision) b' := by
  obtain ⟨w, b₀, hopened, hopen⟩ := hb.exists_opening hfresh precision user
  have h₀ := hopen.sound hb
  rw [hopen.userBalance_eq hb] at h
  have hmove : w.move posting.kind.direction posting.amount draws.balanceAt =
      .ok { w with balance := w.balance + posting.signedAmount, updatedAt := draws.balanceAt } := by
    rw [Wallet.move_eq, h]
  have hlow := (Wallet.of_move hmove (h₀.balances w hopen.mem)).2.1
  obtain ⟨v, hid, hsave⟩ : ∃ v : Wallet, v.id = w.id ∧
      (b₀.store precision).saveWallet
        { w with balance := w.balance + posting.signedAmount, updatedAt := draws.balanceAt } =
        .ok ((b₀.putWallet v).store precision) := by
    refine ⟨_, ?_, h₀.saveWallet_eq precision hopen.mem hlow draws.balanceAt⟩
    rfl
  have hentry (f : Entry) (hf : f ∈ (b₀.putWallet v).entries) : f.id ≠ draws.entryId :=
    hfresh.entry f (by simpa only [Books.putWallet, hopen.entries_eq] using hf)
  have hwallet : ∃ u ∈ (b₀.putWallet v).wallets, u.id = w.id :=
    ⟨v, Keyed.mem_put.2 (.inr ⟨rfl, w, hopen.mem, hid.symm⟩), hid⟩
  obtain ⟨t, happend⟩ : ∃ t, ((b₀.putWallet v).store precision).appendEntry
      (.record draws.entryId w.id posting draws.recordedAt) = .ok t :=
    ⟨_, Books.appendEntry_eq precision hentry hwallet⟩
  have hpost : post draws user posting ⟨b.store precision, []⟩ =
      .ok (.record draws.entryId w.id posting draws.recordedAt) ⟨t, []⟩ := by
    refine bind_eq_ok.2 ⟨w, _, liftStore_eq_ok.2 (World.attempt_eq_ok hopened), ?_⟩
    refine bind_eq_ok.2 ⟨_, _, liftLedger_eq_ok.2 ⟨hmove, rfl⟩, ?_⟩
    refine bind_eq_ok.2 ⟨(), _, liftStore_eq_ok.2 (World.write_eq_ok hsave), ?_⟩
    exact bind_eq_ok.2 ⟨(), _, liftStore_eq_ok.2 (World.write_eq_ok happend), rfl⟩
  obtain ⟨b', rfl, hposted⟩ := of_post hb rfl hpost
  exact ⟨_, b', hpost, rfl, hposted⟩

/-- One that the balance rules out is not, though a wallet may have been opened on the way. -/
theorem post_refused (hb : b.Sound) (hfresh : b.CanPost draws) {cause : LedgerError}
    (h : posting.refusal? ((b.store precision).userBalance user) = some cause) :
    ∃ t, post draws user posting ⟨b.store precision, []⟩ = .error (.ofLedger cause) ⟨t, []⟩ := by
  obtain ⟨w, b₀, hopened, hopen⟩ := hb.exists_opening hfresh precision user
  rw [hopen.userBalance_eq hb] at h
  have hmove : w.move posting.kind.direction posting.amount draws.balanceAt = .error cause := by
    rw [Wallet.move_eq, h]
  refine ⟨b₀.store precision, bind_eq_error.2 (.inr ⟨w, ⟨b₀.store precision, []⟩, ?_, ?_⟩)⟩
  · exact liftStore_eq_ok.2 (World.attempt_eq_ok hopened)
  · exact bind_eq_error.2 (.inl (liftLedger_eq_error.2 ⟨⟨cause, hmove, rfl⟩, rfl⟩))

/-- A posting of its own is entered or leaves no trace. -/
theorem postAlone_eq (hb : b.Sound) (hfresh : b.CanPost draws) (precision : Precision) (user : UserId)
    (posting : Posting) :
    match posting.refusal? ((b.store precision).userBalance user) with
    | some cause => postAlone draws user posting ⟨b.store precision, []⟩ =
        .error (.ofLedger cause) ⟨b.store precision, []⟩
    | none => ∃ e b',
        postAlone draws user posting ⟨b.store precision, []⟩ = .ok e ⟨b'.store precision, []⟩ ∧
          e = .record draws.entryId e.walletId posting draws.recordedAt ∧
          b.Posted user posting (e.keptAt precision) b' := by
  cases h : posting.refusal? ((b.store precision).userBalance user) with
  | some cause =>
      obtain ⟨t, hpost⟩ := post_refused hb hfresh h
      exact unitOfWork_error (bind_eq_error.2 (.inl hpost))
  | none =>
      obtain ⟨e, b', hpost, he, hposted⟩ := post_granted hb hfresh h
      exact ⟨e, b', unitOfWork_keep (bind_eq_ok.2 ⟨e, _, hpost, rfl⟩), he, hposted⟩

end Ledger

/-! ## The four operations -/

/-- What an operation asks for that moves a user's money on no payment's account. -/
structure Mutation where
  user : UserId
  amount : Int
  kind : EntryKind
  description : String
  bookingId : Option BookingId

def Operation.mutation? : Operation → Option Mutation
  | .deposit user amount description => some ⟨user, amount, .deposit, description, none⟩
  | .withdraw user amount description => some ⟨user, amount, .withdraw, description, none⟩
  | .chargeBooking user amount booking =>
    some ⟨user, amount, .bookingCharge, "Charge for booking " ++ booking.text, some booking⟩
  | .refundBooking user amount booking reason => some ⟨user, amount, .refund, reason, some booking⟩
  | _ => none

namespace Mutation

/-- The balance that a mutation makes of a balance, or the error that it answers with. -/
def judge (m : Mutation) (balance : Int) : Except ServiceError Int :=
  if m.amount ≤ 0 then .error (.invalidAmount m.amount)
  else match m.kind with
    | .deposit | .refund =>
      if 2 ^ 63 - 1 < balance + m.amount then .error (.badRequest "Balance overflow")
      else .ok (balance + m.amount)
    | _ =>
      if balance < m.amount then .error (.insufficientBalance balance m.amount)
      else .ok (balance - m.amount)

/-- The entry says what the mutation asked for. -/
structure RecordedBy (m : Mutation) (e : Entry) : Prop where
  kind : e.kind = m.kind
  amount : e.amount.value = m.amount
  description : e.description = m.description
  bookingId : e.bookingId = m.bookingId
  paymentId : e.paymentId = none

def posting (m : Mutation) (amount : Amount) : Posting :=
  ⟨m.kind, amount, m.description, m.bookingId, none⟩

theorem judge_of_pos {m : Mutation} (a : Amount) (ha : a.value = m.amount) (balance : Int) :
    m.judge balance =
      match (m.posting a).refusal? balance with
      | some cause => .error (.ofLedger cause)
      | none => .ok (balance + (m.posting a).signedAmount) := by
  have hpos := a.pos
  have hmax : maxSum = 2 ^ 63 - 1 := rfl
  unfold judge Posting.refusal? Posting.signedAmount posting
  rw [← ha, if_neg (by omega)]
  cases m.kind with
  | deposit | refund =>
      simp only [EntryKind.direction, Direction.signed, hmax]
      split_ifs <;> rfl
  | withdraw | bookingCharge | paymentToRestaurant =>
      simp only [EntryKind.direction, Direction.signed]
      split_ifs <;> rfl

end Mutation

theorem Operation.perform_of_mutation {operation : Operation} {m : Mutation}
    (h : operation.mutation? = some m) (gateways : Gateways) (draws : Draws) :
    operation.perform gateways draws = .entry <$> (do
      let amount ← Amount.ofInt m.amount
      Ledger.postAlone draws m.user (m.posting amount) : Service Entry) := by
  cases operation <;> cases h <;> rfl

/-- After any run, each of the four operations does exactly what `Mutation.judge` says of its amount and
the user's balance: it answers with that error and changes nothing, or with an entry that says what was
asked, for which the balance is the one that was judged and nothing else has changed. An amount that is
not positive is refused whatever the world is like. -/
theorem Operation.mutates_exactly {precision : Precision} {steps : List Step} {s : Store}
    (hs : s = (Store.empty precision).after steps) {operation : Operation} {m : Mutation}
    (hm : operation.mutation? = some m) (hword : Numeral.isWord m.amount) (gateways : Gateways)
    {draws : Draws} (hfresh : s.CanPost draws) :
    (m.amount ≤ 0 → ∀ w, operation.perform gateways draws w = .error (.invalidAmount m.amount) w) ∧
    match m.judge (s.userBalance m.user) with
    | .error error => operation.perform gateways draws ⟨s, []⟩ = .error error ⟨s, []⟩
    | .ok moved => ∃ e t, operation.perform gateways draws ⟨s, []⟩ = .ok (.entry e) ⟨t, []⟩ ∧
        m.RecordedBy e ∧ t.userBalance m.user = moved ∧ s.Enters t m.user (e.keptAt precision) ∧
        t.payments = s.payments := by
  obtain ⟨b, hb, hlawful⟩ := Books.run_lawful precision steps
  obtain rfl := hs.trans hb
  have hfresh := Books.canPost_of_store hfresh
  rw [Operation.perform_of_mutation hm]
  by_cases hpos : m.amount ≤ 0
  · have hrefused (w : World) := map_eq_error (f := Answer.entry).2 (checked_refused hpos
      (fun amount => Ledger.postAlone draws m.user (m.posting amount)) w)
    refine ⟨fun _ => hrefused, ?_⟩
    rw [Mutation.judge, if_pos hpos]
    exact hrefused _
  refine ⟨fun h => absurd h hpos, ?_⟩
  obtain ⟨a, ha, hvalue⟩ := Amount.exists_of_pos hword (Int.not_le.1 hpos)
  rw [checked_accepted ha, m.judge_of_pos a hvalue]
  have hpost := Ledger.postAlone_eq hlawful.toSound hfresh precision m.user (m.posting a)
  cases h : (m.posting a).refusal? ((b.store precision).userBalance m.user) with
  | some cause =>
      rw [h] at hpost
      exact map_eq_error.2 hpost
  | none =>
      rw [h] at hpost
      obtain ⟨e, b', hpost, he, hposted⟩ := hpost
      have henters := hposted.enters hlawful.toSound (hposted.sound hlawful.toSound) rfl rfl precision
      refine ⟨e, b'.store precision, map_eq_ok.2 ⟨e, hpost, rfl⟩, ?_, ?_, henters, ?_⟩
      · rw [he]
        exact ⟨rfl, hvalue, rfl, rfl, rfl⟩
      · rw [henters.balance, he]
        rfl
      · simp only [Books.store, hposted.payments_eq]

/-- A store with one wallet that can pay for lunch. -/
def Store.saved : Store :=
  (empty .microsecond).after [Operation.step (.deposit ⟨.ofDigit 7⟩ 500 "savings") 1]

theorem Store.saved_canPost : saved.CanPost (.ofDigit 2) := ⟨by decide, by decide⟩

theorem Operation.mutates_exactly_at_lunch :
    ∃ e t, (Operation.withdraw ⟨.ofDigit 7⟩ 120 "lunch").perform (fun _ => none) (.ofDigit 2)
        ⟨Store.saved, []⟩ = .ok (.entry e) ⟨t, []⟩ ∧
      Mutation.RecordedBy ⟨⟨.ofDigit 7⟩, 120, .withdraw, "lunch", none⟩ e ∧
      t.userBalance ⟨.ofDigit 7⟩ = 380 ∧
      Store.saved.Enters t ⟨.ofDigit 7⟩ (e.keptAt .microsecond) ∧ t.payments = [] := by
  have hmutation : (Operation.withdraw ⟨.ofDigit 7⟩ 120 "lunch").mutation? =
      some ⟨⟨.ofDigit 7⟩, 120, .withdraw, "lunch", none⟩ := rfl
  exact (mutates_exactly rfl hmutation (by decide) _ Store.saved_canPost).2

end Purse
