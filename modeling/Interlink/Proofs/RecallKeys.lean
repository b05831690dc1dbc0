import Interlink.Proofs.Paths

/-!
# What a path is the path of

Units find one another's values by path, and a run remembers values by path. Where no name
holds a slash, a path is that of one value only, whatever the prefix of the installation is
(`paths_unambiguous`): the segments can be read off it, and of two lists of segments that
agree one is no longer than the other.

An attachment of another owner is remembered under its path with the id of a gateway behind
it. The id is none of the topology's names, so it may hold slashes, and the key may have more
segments than any path has. But up to the mark in front of the id the key is fixed, and its
fifth segment goes on where that of a path ends (`path_attachment_append_ne`). Where the mark
stands is known, because what stands before it is a path; that names or ids hold marks of their
own does no harm.

Names with slashes can make two values share a path.
-/

namespace Interlink

namespace Published

/-! ## Names -/

/-- The names that a path is made of. -/
def names : Published → List String
  | .transitGateway gateway => [gateway]
  | .transitGatewayRouteTable gateway table => [gateway, table]
  | .attachment _ child name => [child, name]
  | .vpc name => [name]
  | .vpcRouteTable name table => [name, table]
  | .vpcPrimaryCidr name => [name]
  | .prefixList name => [name]
  | .resolverRule name => [name]
  | .vpcPeering key => [key]

/-- Only names bring slashes into the segments of a path. -/
theorem plain_iff {p : Published} : p.Plain ↔ ∀ name ∈ p.names, '/' ∉ name.toList := by
  cases p <;> simp [Plain, segments, names, pathSegment_plain]

/-! ## Keys of attachments -/

/-- Whether a value is the id of an attachment. -/
def ofAttachment : Published → Bool
  | .attachment .. => true
  | _ => false

theorem exists_of_ofAttachment {p : Published} (h : p.ofAttachment = true) :
    ∃ kind child name, p = attachment kind child name := by
  cases p with
  | attachment kind child name => exact ⟨kind, child, name, rfl⟩
  | _ => exact nomatch h

/-- Segments without slashes that something stands behind are the first segments of whatever
has this text. -/
theorem segments_of_joined_append {as bs : List String} {behind : List Char}
    (ha : ∀ a ∈ as, '/' ∉ a.toList) (hb : ∀ b ∈ bs, '/' ∉ b.toList)
    (same : joined as ++ '/' :: behind = joined bs) :
    bs.map String.toList = as.map String.toList ++ behind.splitOn '/' := by
  have split := congrArg (List.splitOn '/') same
  rw [List.splitOn_append_cons_self, splitOn_joined ha, splitOn_joined hb] at split
  exact (List.cons.inj split).2.symm

/-- The segments of an attachment's path but for the last. -/
def attachmentSegments (kind : AttachmentKind) (child name : String) : List String :=
  [kind.pathSegment, child, "transitGatewayAttachment", name]

theorem path_attachment_append_toList (kind : AttachmentKind) (child name pathPrefix : String)
    (suffix : String) :
    ((attachment kind child name).path pathPrefix ++ suffix).toList =
      root pathPrefix ++
        (joined (attachmentSegments kind child name) ++ '/' :: ("id" ++ suffix).toList) := by
  rw [String.toList_append, path_toList]
  simp [segments, attachmentSegments, joined]

/-- Of all paths only those of attachments begin like the path of an attachment, and they end
with the fifth segment. -/
theorem behind_of_segments {q : Published} {kind : AttachmentKind} {child name : String}
    {behind : List (List Char)}
    (same : q.segments.map String.toList =
      (attachmentSegments kind child name).map String.toList ++ behind) :
    behind = ["id".toList] := by
  cases q with
  | attachment =>
    simp only [segments, attachmentSegments, List.map_cons, List.map_nil, List.cons_append,
      List.nil_append, List.cons.injEq] at same
    exact same.2.2.2.2.symm
  | resolverRule =>
    -- the third segment is a name here, and the first one is that of no attachment
    cases kind <;> simp [segments, attachmentSegments, AttachmentKind.pathSegment] at same
  | _ =>
    -- the third segment is not that of an attachment
    simp [segments, attachmentSegments] at same

theorem plain_attachmentSegments {kind : AttachmentKind} {child name : String}
    (plain : (attachment kind child name).Plain) :
    ∀ segment ∈ attachmentSegments kind child name, '/' ∉ segment.toList := by
  obtain ⟨childPlain, namePlain⟩ := plain_attachment.mp plain
  simp [attachmentSegments, pathSegment_plain, childPlain, namePlain]

/-- The path of an attachment with something behind it is the path of nothing. -/
theorem path_attachment_append_ne {q : Published} {kind : AttachmentKind} {child name : String}
    (plain : (attachment kind child name).Plain) (hq : q.Plain) {suffix : String}
    (more : suffix ≠ "") (pathPrefix : String) :
    (attachment kind child name).path pathPrefix ++ suffix ≠ q.path pathPrefix := by
  intro same
  have texts := congrArg String.toList same
  rw [path_attachment_append_toList, path_toList] at texts
  have segments := segments_of_joined_append (plain_attachmentSegments plain) hq
    (List.append_cancel_left texts)
  have last := congrArg (List.intercalate ['/']) (behind_of_segments segments)
  rw [List.intercalate_splitOn] at last
  exact more (by simpa using last)

/-- Names with slashes can make two values share a path. -/
example : (vpc "App/routeTables/main").path "accel" = (vpcRouteTable "App" "main").path "accel" :=
  rfl

end Published

/-! ## The whole -/

open Published Vantage

/-- Where no name holds a slash, values are published at one path only if they are the same.
The key of an attachment of another owner is none of these paths, whatever the id of the
gateway holds, and it tells the attachment and the id. -/
theorem paths_unambiguous (pathPrefix : String) {p q : Published}
    (hp : ∀ name ∈ p.names, '/' ∉ name.toList) (hq : ∀ name ∈ q.names, '/' ∉ name.toList) :
    (p.path pathPrefix = q.path pathPrefix ↔ p = q) ∧
    (p.ofAttachment = true → ∀ gatewayId owner,
      (attachmentRecallKey (p.path pathPrefix) gatewayId owner).path ≠ q.path pathPrefix ∧
      (q.ofAttachment = true → ∀ gatewayId' owner',
        ((attachmentRecallKey (p.path pathPrefix) gatewayId owner).path =
            (attachmentRecallKey (q.path pathPrefix) gatewayId' owner').path ↔
          p = q ∧ gatewayId = gatewayId'))) := by
  have hp := plain_iff.mpr hp
  have hq := plain_iff.mpr hq
  refine ⟨⟨path_injective hp hq, fun same => by rw [same]⟩, fun attached gatewayId owner => ?_⟩
  obtain ⟨kind, child, name, rfl⟩ := exists_of_ofAttachment attached
  unfold attachmentRecallKey
  dsimp only
  rw [String.append_assoc]
  refine ⟨path_attachment_append_ne hp hq (by simp) pathPrefix, fun attached' gatewayId' _ => ?_⟩
  obtain ⟨kind', child', name', rfl⟩ := exists_of_ofAttachment attached'
  rw [String.append_assoc]
  constructor
  · intro same
    obtain ⟨rfl, rfl, rfl, behind⟩ := path_attachment_append_injective hp hq same
    exact ⟨rfl, (String.append_right_inj "@").mp behind⟩
  · rintro ⟨same, rfl⟩
    rw [same]

/-- An id with slashes and marks makes the key look like a path below the attachment's, and yet
it is not the path of another attachment or of a route table. -/
theorem paths_unambiguous_sample :
    (attachmentRecallKey ((attachment .vpc "App" "link").path "accel") "tgw@1/id"
        ⟨"Workload", "us-east-1"⟩).path =
      "/accel/network/vpc/App/transitGatewayAttachment/link/id@tgw@1/id" ∧
    (attachment .vpc "App" "link").path "accel" ≠ (vpcRouteTable "App" "link").path "accel" ∧
    (attachmentRecallKey ((attachment .vpc "App" "link").path "accel") "tgw@1/id"
        ⟨"Workload", "us-east-1"⟩).path ≠ (attachment .vpc "App" "link@").path "accel" ∧
    (attachmentRecallKey ((attachment .vpc "App" "link").path "accel") "tgw@1/id"
        ⟨"Workload", "us-east-1"⟩).path ≠
      (attachmentRecallKey ((attachment .vpc "App" "link@").path "accel") "1/id"
        ⟨"Workload", "us-east-1"⟩).path := by
  have link : ∀ name ∈ (attachment .vpc "App" "link").names, '/' ∉ name.toList := by decide
  have marked : ∀ name ∈ (attachment .vpc "App" "link@").names, '/' ∉ name.toList := by decide
  have table : ∀ name ∈ (vpcRouteTable "App" "link").names, '/' ∉ name.toList := by decide
  obtain ⟨differ, -⟩ := paths_unambiguous "accel" link table
  obtain ⟨noPath, keys⟩ := (paths_unambiguous "accel" link marked).2 rfl "tgw@1/id"
    ⟨"Workload", "us-east-1"⟩
  exact ⟨rfl, fun same => absurd (differ.mp same) (by decide), noPath,
    fun same => absurd ((keys rfl "1/id" ⟨"Workload", "us-east-1"⟩).mp same) (by decide)⟩

end Interlink
