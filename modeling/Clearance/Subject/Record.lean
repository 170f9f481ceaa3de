import Clearance.Document.Json.Writer
import Clearance.Subject.Basic
import Clearance.Vocabulary.Codec

/-!
# Records of subjects

A subject is kept as a record: its identifiers, and a discriminator that names its variant. A
record that comes from outside is told apart by the discriminator first; only then are the
identifiers of that variant looked at, and all other members are passed over.
-/

namespace Clearance

/-- The member of a record that names the variant. -/
def discriminator : String := "__typename"

def optionalIdDocument {entity : Entity} : Option (Id entity) → Document
  | none => .null
  | some i => i.document

namespace UserSubject

def members (s : UserSubject) : List (String × Document) :=
  [("id", s.id.document)]

def specs : List FieldSpec :=
  [.needed "id" (Document.asId .user)]

def decode : Decoder UserSubject := fun medium d => do
  let fields ← d.asRecord "UserSubject" specs medium
  return { id := ← Document.neededField fields "id" (Document.asId .user) }

end UserSubject

namespace ProjectSubject

def members (s : ProjectSubject) : List (String × Document) :=
  [("id", s.id.document), ("ownerId", s.ownerId.document),
    ("organizationId", optionalIdDocument s.organizationId)]

def specs : List FieldSpec :=
  [.needed "id" (Document.asId .project), .needed "ownerId" (Document.asId .user),
    .optional "organizationId" (Document.asId .organization)]

def decode : Decoder ProjectSubject := fun medium d => do
  let fields ← d.asRecord "ProjectSubject" specs medium
  return {
    id := ← Document.neededField fields "id" (Document.asId .project)
    ownerId := ← Document.neededField fields "ownerId" (Document.asId .user)
    organizationId := ←
      Document.optionalField fields "organizationId" (Document.asId .organization) }

end ProjectSubject

namespace OrganizationSubject

def members (s : OrganizationSubject) : List (String × Document) :=
  [("id", s.id.document), ("ownerId", s.ownerId.document)]

def specs : List FieldSpec :=
  [.needed "id" (Document.asId .organization), .needed "ownerId" (Document.asId .user)]

def decode : Decoder OrganizationSubject := fun medium d => do
  let fields ← d.asRecord "OrganizationSubject" specs medium
  return {
    id := ← Document.neededField fields "id" (Document.asId .organization)
    ownerId := ← Document.neededField fields "ownerId" (Document.asId .user) }

end OrganizationSubject

namespace InviteSubject

def members (s : InviteSubject) : List (String × Document) :=
  [("id", s.id.document), ("organizationId", s.organizationId.document),
    ("authorId", optionalIdDocument s.authorId)]

def specs : List FieldSpec :=
  [.needed "id" (Document.asId .invite), .needed "organizationId" (Document.asId .organization),
    .optional "authorId" (Document.asId .user)]

def decode : Decoder InviteSubject := fun medium d => do
  let fields ← d.asRecord "InviteSubject" specs medium
  return {
    id := ← Document.neededField fields "id" (Document.asId .invite)
    organizationId := ←
      Document.neededField fields "organizationId" (Document.asId .organization)
    authorId := ← Document.optionalField fields "authorId" (Document.asId .user) }

end InviteSubject

namespace BillingSubject

def members (s : BillingSubject) : List (String × Document) :=
  [("organizationId", s.organizationId.document)]

def specs : List FieldSpec :=
  [.needed "organizationId" (Document.asId .organization)]

def decode : Decoder BillingSubject := fun medium d => do
  let fields ← d.asRecord "BillingSubject" specs medium
  return {
    organizationId := ←
      Document.neededField fields "organizationId" (Document.asId .organization) }

end BillingSubject

namespace Subject

def members : Subject → List (String × Document)
  | user s => s.members
  | project s => s.members
  | organization s => s.members
  | invite s => s.members
  | billing s => s.members

def document (s : Subject) : Document :=
  .table ((discriminator, s.subjectType.document) :: s.members)

/-- Decodes the identifiers of a variant. -/
def decodeVariant : SubjectType → Decoder Subject
  | .user, medium, d => (UserSubject.decode medium d).map user
  | .project, medium, d => (ProjectSubject.decode medium d).map project
  | .organization, medium, d => (OrganizationSubject.decode medium d).map organization
  | .invite, medium, d => (InviteSubject.decode medium d).map invite
  | .billing, medium, d => (BillingSubject.decode medium d).map billing

def decodeTag : Document → Decoded SubjectType
  | .text name =>
      match SubjectType.spellings.lookup name with
      | some t => .ok t
      | none => .error (.unknownName name (SubjectType.spellings.map Prod.fst))
  | d => .error (d.unexpected .tag)

/-- Looks for the discriminator among the members of a record and sets the others aside. -/
def splitMembers (medium : Medium) : Option SubjectType → List (String × Document) →
    Decoded (SubjectType × List (String × Document))
  | some t, [] => .ok (t, [])
  | none, [] => .error (.missingMember discriminator)
  | tag, (name, d) :: rest =>
      if name = discriminator then
        match tag with
        | some _ => .error (.repeatedMember discriminator)
        | none => do splitMembers medium (some (← decodeTag d)) rest
      else do
        d.store medium
        let (t, others) ← splitMembers medium tag rest
        return (t, (name, d) :: others)

/-- Decodes a subject: a table with a discriminator anywhere in it, or a list that starts with
one. -/
def decode : Decoder Subject
  | medium, .table members => do
      let (t, others) ← splitMembers medium none members
      decodeVariant t .stored (.table others)
  | medium, .list items =>
      match items with
      | [] => .error (.missingMember discriminator)
      | tag :: rest => do
          let t ← decodeTag tag
          for d in rest do
            d.store medium
          decodeVariant t .stored (.list rest)
  | _, d => .error (d.unexpected (.taggedRecord "Subject"))

def fromRecord (record : Document) : Except AbilityError Subject :=
  let record := record.canonical
  match record.member? discriminator with
  | none => .error .missingDiscriminator
  | some .null => .error .missingDiscriminator
  | some (.text name) =>
      match SubjectType.ofText? name with
      | none => .error (.unknownSubjectType name)
      | some _ =>
          (decode .memory record).mapError fun fault => .invalidSubject name (fault.message .json)
  | some d => .error (.unknownSubjectType d.jsonText)

end Subject

end Clearance
