import PodRunner.Api.Shape

/-!
# Metadata

What all objects of the interface have: names, labels and the history of their fields.
-/

namespace PodRunner.Api.Object

def ownerReference : Shape :=
  .record "OwnerReference" [.required "apiVersion" .text, .optional "blockOwnerDeletion" .flag,
    .optional "controller" .flag, .required "kind" .text, .required "name" .text,
    .required "uid" .text]

def managedFieldsEntry : Shape :=
  .record "ManagedFieldsEntry" [.optional "apiVersion" .text, .optional "fieldsType" .text,
    .optional "fieldsV1" .any, .optional "manager" .text, .optional "operation" .text,
    .optional "subresource" .text, .optional "time" .time]

def objectMeta : Shape :=
  .record "ObjectMeta" [.optional "annotations" (.map .text), .optional "creationTimestamp" .time,
    .optional "deletionGracePeriodSeconds" (.int 64), .optional "deletionTimestamp" .time,
    .optional "finalizers" (.list .text), .optional "generateName" .text,
    .optional "generation" (.int 64), .optional "labels" (.map .text),
    .optional "managedFields" (.list managedFieldsEntry), .optional "name" .text,
    .optional "namespace" .text, .optional "ownerReferences" (.list ownerReference),
    .optional "resourceVersion" .text, .optional "selfLink" .text, .optional "uid" .text]

def listMeta : Shape :=
  .record "ListMeta" [.optional "continue" .text, .optional "remainingItemCount" (.int 64),
    .optional "resourceVersion" .text, .optional "selfLink" .text]

/-! ## References and selectors -/

def localObjectReference : Shape :=
  .record "LocalObjectReference" [.required "name" .text]

def labelSelectorRequirement : Shape :=
  .record "LabelSelectorRequirement" [.required "key" .text, .required "operator" .text,
    .optional "values" (.list .text)]

def labelSelector : Shape :=
  .record "LabelSelector" [.optional "matchExpressions" (.list labelSelectorRequirement),
    .optional "matchLabels" (.map .text)]

def objectFieldSelector : Shape :=
  .record "ObjectFieldSelector" [.optional "apiVersion" .text, .required "fieldPath" .text]

def resourceFieldSelector : Shape :=
  .record "ResourceFieldSelector" [.optional "containerName" .text, .optional "divisor" .text,
    .required "resource" .text]

end PodRunner.Api.Object
