import PodRunner.Api.Object.Metadata

/-!
# Status objects

The object that says how a request or a command ended.
-/

namespace PodRunner.Api.Object

def statusCause : Shape :=
  .record "StatusCause" [.optional "field" .text, .optional "message" .text,
    .optional "reason" .text]

def statusDetails : Shape :=
  .record "StatusDetails" [.optional "causes" (.list statusCause), .optional "group" .text,
    .optional "kind" .text, .optional "name" .text, .optional "retryAfterSeconds" (.int 32),
    .optional "uid" .text]

def status : Shape :=
  .record "Status" [.fixed "apiVersion" "v1", .optional "code" (.int 32),
    .optional "details" statusDetails, .fixed "kind" "Status", .optional "message" .text,
    .required "metadata" listMeta, .optional "reason" .text, .optional "status" .text]

end PodRunner.Api.Object
