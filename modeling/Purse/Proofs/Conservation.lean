import Mathlib.Algebra.Ring.Int.Defs
import Purse.Proofs.Run

/-!
# Conservation of money

The balance of a wallet is the total of the ledger entries that were made to it. Reading them in the order
in which they were committed, the total so far is never negative and never more than a balance can be.
Both hold of empty books, and the only change that touches a balance or the ledger enters one posting: it
moves one balance by the signed amount of the one entry that it appends.
-/
namespace Purse

/-- The change of balance that a list of entries stands for. -/
def Entry.total (es : List Entry) : Int := (es.map Entry.signedAmount).sum

theorem Entry.total_concat (es : List Entry) (e : Entry) :
    total (es ++ [e]) = total es + e.signedAmount := by
  simp [total]

/-- The whole ledger, oldest entry first. -/
def Store.ledger (s : Store) : Except StoreError (List Entry) := s.entries.reverse.mapM EntryRow.read

namespace Books

/-- The entries of a wallet, oldest first. -/
def journal (b : Books) (wallet : WalletId) : List Entry := b.entries.reverse.filter (·.walletId = wallet)

/-- A wallet that its journal accounts for: the entries add up to the balance, and every total on the way
was in range. -/
structure Accounts (b : Books) (w : Wallet) : Prop where
  balance : w.balance = Entry.total (b.journal w.id)
  inRange : ∀ es, es <+: b.journal w.id → 0 ≤ Entry.total es ∧ Entry.total es ≤ maxSum

/-- Books whose ledger accounts for every wallet. -/
def Conserving (b : Books) : Prop := ∀ w ∈ b.wallets, b.Accounts w

variable {b b' : Books} {user : UserId} {w : Wallet} {posting : Posting} {e : Entry}
  {precision : Precision}

theorem ledger_store : (b.store precision).ledger = .ok b.entries.reverse := by
  rw [Store.ledger, store, ← List.map_reverse]
  exact mapM_read EntryRow.read_ofEntry _

theorem journal_eq_nil (h : ∀ e ∈ b.entries, e.walletId ≠ w.id) : b.journal w.id = [] := by
  rw [journal, List.filter_eq_nil_iff]
  intro e he
  simpa using h e (List.mem_reverse.1 he)

theorem journal_cons_self (h : b'.entries = e :: b.entries) :
    b'.journal e.walletId = b.journal e.walletId ++ [e] := by
  simp [journal, h]

theorem journal_cons_of_ne (h : b'.entries = e :: b.entries) {wallet : WalletId}
    (hne : wallet ≠ e.walletId) : b'.journal wallet = b.journal wallet := by
  simp [journal, h, Ne.symm hne]

/-- A wallet is accounted for by the same entries wherever they stand. -/
theorem Accounts.of_journal_eq (h : b.Accounts w) (hj : b'.journal w.id = b.journal w.id) :
    b'.Accounts w := by
  refine ⟨?_, fun es hes => ?_⟩
  · rw [hj]
    exact h.balance
  · rw [hj] at hes
    exact h.inRange es hes

/-- One more entry is accounted for if it is the difference of the balances, and the new one is in
range. -/
theorem Accounts.concat {v : Wallet} (h : b.Accounts w) (hid : v.id = w.id)
    (hj : b'.journal w.id = b.journal w.id ++ [e]) (hbalance : v.balance = w.balance + e.signedAmount)
    (hlow : 0 ≤ v.balance) (hhigh : v.balance ≤ maxSum) : b'.Accounts v := by
  have htotal : Entry.total (b.journal w.id ++ [e]) = v.balance := by
    rw [Entry.total_concat, ← h.balance, hbalance]
  refine ⟨?_, fun es hes => ?_⟩
  · rw [hid, hj, htotal]
  · rw [hid, hj, List.prefix_concat_iff] at hes
    rcases hes with rfl | hes
    · rw [htotal]
      exact ⟨hlow, hhigh⟩
    · exact h.inRange es hes

theorem Opened.conserving (h : b.Opened user w b') (hb : b.Sound) (hc : b.Conserving) :
    b'.Conserving := by
  cases h with
  | found _ _ => exact hc
  | opened id now huser hid =>
      intro v hv
      rcases List.mem_cons.1 hv with rfl | hv
      · have hempty : (b.addWallet (.opened id user now)).journal (Wallet.opened id user now).id = [] := by
          refine journal_eq_nil fun e he heq => ?_
          obtain ⟨v, hv, hve⟩ := hb.entryWallets e he
          exact hid v hv (hve.trans heq)
        refine ⟨?_, fun es hes => ?_⟩
        · rw [hempty]
          rfl
        · rw [hempty, List.prefix_nil] at hes
          simp [hes, Entry.total, maxSum, Numeral.maxWord]
      · exact (hc v hv).of_journal_eq rfl

/-- The entry goes with the one balance that moves. -/
theorem Posted.conserving (h : b.Posted user posting e b') (hb : b.Sound) (hc : b.Conserving) :
    b'.Conserving := by
  have hentries := h.entries_eq
  obtain ⟨id, moved, recorded, hopen, hlow, hhigh, hfresh⟩ := h
  rename_i w b₀
  rw [← hopen.entries_eq] at hentries
  have h₀ := hopen.conserving hb hc
  intro v hv
  rcases Keyed.mem_put.1 hv with ⟨hv, hid⟩ | ⟨rfl, -⟩
  · exact (h₀ v hv).of_journal_eq (journal_cons_of_ne hentries hid)
  · exact (h₀ w hopen.mem).concat rfl (journal_cons_self hentries) rfl hlow hhigh

theorem Effect.conserving (h : b.Effect b') (hb : b.Lawful) (hc : b.Conserving) : b'.Conserving := by
  cases h with
  | opened hopen => exact hopen.conserving hb.toSound hc
  | posted _ hpost => exact hpost.conserving hb.toSound hc
  | requested id user amount method booking now fresh =>
      exact fun w hw => (hc w hw).of_journal_eq rfl
  | settled hsettled =>
      obtain ⟨-, -, hpost⟩ := hsettled
      exact fun w hw => (hpost.conserving hb.toSound hc w hw).of_journal_eq rfl
  | amended hamended =>
      obtain ⟨-, -, -⟩ := hamended
      exact fun w hw => (hc w hw).of_journal_eq rfl

end Books

/-- After every run the ledger can be read, accounts for the balance of every wallet without ever having
left the range of balances, and has entries of stored wallets only. -/
theorem Store.ledger_accounts_for_balances (precision : Precision) (steps : List Step) :
    ∃ es, ((empty precision).after steps).ledger = .ok es ∧
      (∀ w ∈ ((empty precision).after steps).wallets,
        w.balance = Entry.total (es.filter (·.walletId = w.id)) ∧
          ∀ sofar, sofar <+: es.filter (·.walletId = w.id) →
            0 ≤ Entry.total sofar ∧ Entry.total sofar ≤ maxSum) ∧
      ∀ e ∈ es, ∃ w ∈ ((empty precision).after steps).wallets, w.id = e.walletId := by
  obtain ⟨b, hb, hlawful, hconserving⟩ := Books.run_invariant precision
    (I := Books.Conserving) (by simp [Books.Conserving]) (fun hb hc h => h.conserving hb hc) steps
  rw [hb]
  refine ⟨b.entries.reverse, Books.ledger_store, ?_, ?_⟩
  · intro row hrow
    obtain ⟨w, hw, rfl⟩ := List.mem_map.1 hrow
    exact ⟨(hconserving w hw).balance, (hconserving w hw).inRange⟩
  · intro e he
    obtain ⟨w, hw, hid⟩ := hlawful.entryWallets e (List.mem_reverse.1 he)
    exact ⟨.ofWallet w, List.mem_map_of_mem hw, hid⟩

end Purse
