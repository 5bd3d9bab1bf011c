import Readiness.Schema.Tree

/-!
# Addresses

Where events are delivered to, and the identity that a resource was given for delivering.
-/
namespace Readiness

open Schema

/-- `Addressable`: where events are delivered to. -/
structure Address where
  name : Option Text := none
  url : Option Text := none
  caCerts : Option Text := none
  audience : Option Text := none
deriving DecidableEq, Repr

namespace Address

def nameField : FieldName := ⟨"name", "name"⟩
def urlField : FieldName := ⟨"url", "url"⟩
def caCertsField : FieldName := ⟨"ca_certs", "CACerts"⟩
def audienceField : FieldName := ⟨"audience", "audience"⟩

/-- The URL to deliver to; an empty one counts as none. -/
def target? (a : Address) : Option Text := a.url.filter (· ≠ "")

theorem target?_eq_some_iff {a : Address} {url : Text} : a.target? = some url ↔ a.url = some url ∧ url ≠ "" := by
  simp [target?, Option.filter_eq_some_iff]

/-- `is_empty`: whether there is nothing to deliver to. -/
def isEmpty (a : Address) : Bool := a.target?.isNone

def decode : Decoder Address := record "Addressable" fun es =>
  Address.mk <$> nameField.decode es (Decoder.optional Decoder.text) none
    <*> urlField.decode es (Decoder.optional Decoder.text) none
    <*> caCertsField.decode es (Decoder.optional Decoder.text) none
    <*> audienceField.decode es (Decoder.optional Decoder.text) none

def tree (a : Address) : Tree := .record [
  (nameField, .ofOption .ofText a.name),
  (urlField, .ofOption .ofText a.url),
  (caCertsField, .ofOption .ofText a.caCerts),
  (audienceField, .ofOption .ofText a.audience)]

end Address

/-- The account that was provisioned for a resource. -/
structure Auth where
  serviceAccountName : Option Text := none
deriving DecidableEq, Repr

namespace Auth

def accountField : FieldName := ⟨"service_account_name", "serviceAccountName"⟩

def decode : Decoder Auth := record "AuthStatus" fun es =>
  Auth.mk <$> accountField.decode es (Decoder.optional Decoder.text) none

def tree (a : Auth) : Tree := .record [(accountField, .ofOption .ofText a.serviceAccountName)]

end Auth

end Readiness
