import PodRunner.Api.Object.Metadata

/-!
# Scheduling

Where a pod may run.
-/

namespace PodRunner.Api.Object

def nodeSelectorRequirement : Shape :=
  .record "NodeSelectorRequirement" [.required "key" .text, .required "operator" .text,
    .optional "values" (.list .text)]

def nodeSelectorTerm : Shape :=
  .record "NodeSelectorTerm" [.optional "matchExpressions" (.list nodeSelectorRequirement),
    .optional "matchFields" (.list nodeSelectorRequirement)]

def nodeSelector : Shape :=
  .record "NodeSelector" [.required "nodeSelectorTerms" (.list nodeSelectorTerm)]

def preferredSchedulingTerm : Shape :=
  .record "PreferredSchedulingTerm" [.required "preference" nodeSelectorTerm,
    .required "weight" (.int 32)]

def nodeAffinity : Shape :=
  .record "NodeAffinity" [
    .optional "preferredDuringSchedulingIgnoredDuringExecution" (.list preferredSchedulingTerm),
    .optional "requiredDuringSchedulingIgnoredDuringExecution" nodeSelector]

def podAffinityTerm : Shape :=
  .record "PodAffinityTerm" [.optional "labelSelector" labelSelector,
    .optional "matchLabelKeys" (.list .text), .optional "mismatchLabelKeys" (.list .text),
    .optional "namespaceSelector" labelSelector, .optional "namespaces" (.list .text),
    .required "topologyKey" .text]

def weightedPodAffinityTerm : Shape :=
  .record "WeightedPodAffinityTerm" [.required "podAffinityTerm" podAffinityTerm,
    .required "weight" (.int 32)]

def podAffinityParts : List Part :=
  [.optional "preferredDuringSchedulingIgnoredDuringExecution" (.list weightedPodAffinityTerm),
    .optional "requiredDuringSchedulingIgnoredDuringExecution" (.list podAffinityTerm)]

def podAffinity : Shape := .record "PodAffinity" podAffinityParts

def podAntiAffinity : Shape := .record "PodAntiAffinity" podAffinityParts

def affinity : Shape :=
  .record "Affinity" [.optional "nodeAffinity" nodeAffinity, .optional "podAffinity" podAffinity,
    .optional "podAntiAffinity" podAntiAffinity]

def toleration : Shape :=
  .record "Toleration" [.optional "effect" .text, .optional "key" .text, .optional "operator" .text,
    .optional "tolerationSeconds" (.int 64), .optional "value" .text]

def topologySpreadConstraint : Shape :=
  .record "TopologySpreadConstraint" [.optional "labelSelector" labelSelector,
    .optional "matchLabelKeys" (.list .text), .required "maxSkew" (.int 32),
    .optional "minDomains" (.int 32), .optional "nodeAffinityPolicy" .text,
    .optional "nodeTaintsPolicy" .text, .required "topologyKey" .text,
    .required "whenUnsatisfiable" .text]

end PodRunner.Api.Object
