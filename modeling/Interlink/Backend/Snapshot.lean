import Interlink.Backend
import Interlink.Data.Decode
import Interlink.Data.Encode
import Interlink.Json.Reader
import Interlink.SortedMap

/-!
# Snapshots — what is published, shared and attached

A snapshot is everything a backend can be asked about, as plain data. Values are
kept under the text of their scope and their path; shares and attachments are
lists in which the first match answers.
-/

namespace Interlink

/-- A resource that its owner shares. -/
structure Share where
  kind : ResourceKind
  name : String
  ownerId : String
  region : String
  id : String
deriving DecidableEq, Repr, Inhabited

/-- An attachment as the provisioning interface knows it. -/
structure AttachmentRecord where
  account : String
  region : String
  gatewayId : String
  name : String
  id : String
deriving DecidableEq, Repr, Inhabited

/-- Published values, shares and attachments. -/
structure Snapshot where
  /-- Values by the text of their scope and by path. -/
  values : SortedMap (SortedMap String) := .empty
  shares : List Share := []
  attachments : List AttachmentRecord := []
deriving DecidableEq, Repr, Inhabited

namespace Snapshot

/-- The value that is published in a scope under a path. -/
def value? (s : Snapshot) (scope : Scope) (path : String) : Option String :=
  (s.values.get? scope.render).bind (·.get? path)

/-- The snapshot with a value published. -/
def publish (s : Snapshot) (scope : Scope) (path value : String) : Snapshot :=
  let inScope := (s.values.get? scope.render).getD .empty
  { s with values := s.values.insert scope.render (inScope.insert path value) }

/-- The snapshot with one more share. -/
def addShare (s : Snapshot) (share : Share) : Snapshot :=
  { s with shares := s.shares ++ [share] }

/-- The snapshot with one more attachment. -/
def addAttachment (s : Snapshot) (a : AttachmentRecord) : Snapshot :=
  { s with attachments := s.attachments ++ [a] }

/-- The id of the first share that matches. -/
def share? (s : Snapshot) (kind : ResourceKind) (name ownerId region : String) :
    Option String :=
  (s.shares.find? fun share =>
    share.kind == kind && share.name == name && share.ownerId == ownerId &&
      share.region == region).map (·.id)

/-- The id of the first attachment that matches. -/
def attachment? (s : Snapshot) (scope : Scope) (gatewayId name : String) : Option String :=
  (s.attachments.find? fun a =>
    a.account == scope.account && a.region == scope.region && a.gatewayId == gatewayId &&
      a.name == name).map (·.id)

end Snapshot

/-! ## As data -/

namespace Encode

def share (s : Share) : Data :=
  struct [text "kind" s.kind.label, text "name" s.name, text "owner_account_id" s.ownerId,
    text "region" s.region, text "id" s.id]

def attachmentRecord (a : AttachmentRecord) : Data :=
  struct [text "account" a.account, text "region" a.region, text "gateway_id" a.gatewayId,
    text "name" a.name, text "id" a.id]

def snapshot (s : Snapshot) : Data :=
  struct [field "values" (mapData (mapData .text) s.values), list share "shares" s.shares,
    list attachmentRecord "attachments" s.attachments]

end Encode

namespace Decode

open Fields (field fieldD listField)

def share : Decoder Share :=
  struct "SharedResource"
    (Share.mk <$> field "kind" (alternative ResourceKind.all ResourceKind.label) <*>
      field "name" text <*> field "owner_account_id" text <*> field "region" text <*>
      field "id" text)

def attachmentRecord : Decoder AttachmentRecord :=
  struct "AttachmentRecord"
    (AttachmentRecord.mk <$> field "account" text <*> field "region" text <*>
      field "gateway_id" text <*> field "name" text <*> field "id" text)

/-- A snapshot from a document. -/
def snapshot : Decoder Snapshot :=
  struct "Snapshot"
    (Snapshot.mk <$> fieldD "values" (sortedMap (sortedMap text)) .empty <*>
      listField "shares" share <*> listField "attachments" attachmentRecord)

end Decode

/-! ## From text -/

/-- Why a text is no snapshot. -/
inductive SnapshotError
  | notJson
  | misfit (error : DecodeError)
deriving DecidableEq, Repr

namespace Snapshot

/-- The snapshot that a JSON text describes. Of a fault of the text and one of
its shape the one that stands first is met; what follows the snapshot is looked
at last. -/
def load (text : String) : Except SnapshotError Snapshot :=
  let (d, whole) := Json.read text
  match Decode.snapshot .jsonText d with
  | .ok s => if whole then .ok s else .error .notJson
  | .error e => .error (if e.misfit = .unreadable then .notJson else .misfit e)

end Snapshot

end Interlink
