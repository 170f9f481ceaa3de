import Clearance.Vocabulary.Attribute
import Clearance.Vocabulary.SubjectType

/-!
# Subjects

The resources that actions are performed on. A subject carries the identifiers of its variant; of
these conditions see the ones that the variant has, as attributes.
-/

namespace Clearance

structure UserSubject where
  id : UserId
deriving DecidableEq, Repr

/-- A project; it may belong to an organization. -/
structure ProjectSubject where
  id : ProjectId
  ownerId : UserId
  organizationId : Option OrgId
deriving DecidableEq, Repr

structure OrganizationSubject where
  id : OrgId
  ownerId : UserId
deriving DecidableEq, Repr

/-- An invite to an organization; its author may be unknown. -/
structure InviteSubject where
  id : InviteId
  organizationId : OrgId
  authorId : Option UserId
deriving DecidableEq, Repr

structure BillingSubject where
  organizationId : OrgId
deriving DecidableEq, Repr

inductive Subject where
  | user (subject : UserSubject)
  | project (subject : ProjectSubject)
  | organization (subject : OrganizationSubject)
  | invite (subject : InviteSubject)
  | billing (subject : BillingSubject)
deriving DecidableEq, Repr

namespace Subject

/-- The type that a subject has by its variant. -/
def subjectType : Subject → SubjectType
  | user _ => .user
  | project _ => .project
  | organization _ => .organization
  | invite _ => .invite
  | billing _ => .billing

/-- The value of an attribute; a variant that does not carry it has none. -/
def lookup : Subject → Attribute → Option AttrValue
  | user s, .id => some (.ofId s.id)
  | project s, .id => some (.ofId s.id)
  | project s, .ownerId => some (.ofId s.ownerId)
  | project s, .organizationId => s.organizationId.map .ofId
  | organization s, .id => some (.ofId s.id)
  | organization s, .ownerId => some (.ofId s.ownerId)
  | invite s, .id => some (.ofId s.id)
  | invite s, .organizationId => some (.ofId s.organizationId)
  | invite s, .authorId => s.authorId.map .ofId
  | billing s, .organizationId => some (.ofId s.organizationId)
  | _, _ => none

end Subject

end Clearance
