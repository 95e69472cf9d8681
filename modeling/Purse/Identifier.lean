import Purse.Uuid

/-!
# Identifiers

Users, bookings, wallets, ledger entries and payments are named by identifiers of types of their own,
so that one can never stand where another is meant.
-/
namespace Purse

structure UserId where
  uuid : Uuid
  deriving DecidableEq, Repr

structure BookingId where
  uuid : Uuid
  deriving DecidableEq, Repr

structure WalletId where
  uuid : Uuid
  deriving DecidableEq, Repr

structure EntryId where
  uuid : Uuid
  deriving DecidableEq, Repr

structure PaymentId where
  uuid : Uuid
  deriving DecidableEq, Repr

def UserId.text (id : UserId) : String := id.uuid.text
def BookingId.text (id : BookingId) : String := id.uuid.text
def WalletId.text (id : WalletId) : String := id.uuid.text
def EntryId.text (id : EntryId) : String := id.uuid.text
def PaymentId.text (id : PaymentId) : String := id.uuid.text

def UserId.ofText? (s : String) : Option UserId := (Uuid.ofText? s).map UserId.mk
def BookingId.ofText? (s : String) : Option BookingId := (Uuid.ofText? s).map BookingId.mk
def WalletId.ofText? (s : String) : Option WalletId := (Uuid.ofText? s).map WalletId.mk
def EntryId.ofText? (s : String) : Option EntryId := (Uuid.ofText? s).map EntryId.mk
def PaymentId.ofText? (s : String) : Option PaymentId := (Uuid.ofText? s).map PaymentId.mk

end Purse
