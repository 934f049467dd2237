import PodRunner.Api.Object.Scheduling
import PodRunner.Api.Object.Volume

/-!
# Pods

Pods: what is wanted of them, and how they are.
-/

namespace PodRunner.Api.Object

/-! ## What is wanted -/

def podDNSConfigOption : Shape :=
  .record "PodDNSConfigOption" [.optional "name" .text, .optional "value" .text]

def podDNSConfig : Shape :=
  .record "PodDNSConfig" [.optional "nameservers" (.list .text),
    .optional "options" (.list podDNSConfigOption), .optional "searches" (.list .text)]

def hostAlias : Shape :=
  .record "HostAlias" [.optional "hostnames" (.list .text), .required "ip" .text]

def podOS : Shape :=
  .record "PodOS" [.required "name" .text]

def podReadinessGate : Shape :=
  .record "PodReadinessGate" [.required "conditionType" .text]

def podResourceClaim : Shape :=
  .record "PodResourceClaim" [.required "name" .text, .optional "resourceClaimName" .text,
    .optional "resourceClaimTemplateName" .text]

def podSchedulingGate : Shape :=
  .record "PodSchedulingGate" [.required "name" .text]

def podSpec : Shape :=
  .record "PodSpec" [.optional "activeDeadlineSeconds" (.int 64), .optional "affinity" affinity,
    .optional "automountServiceAccountToken" .flag, .required "containers" (.list container),
    .optional "dnsConfig" podDNSConfig, .optional "dnsPolicy" .text,
    .optional "enableServiceLinks" .flag,
    .optional "ephemeralContainers" (.list ephemeralContainer),
    .optional "hostAliases" (.list hostAlias), .optional "hostIPC" .flag,
    .optional "hostNetwork" .flag, .optional "hostPID" .flag, .optional "hostUsers" .flag,
    .optional "hostname" .text, .optional "imagePullSecrets" (.list localObjectReference),
    .optional "initContainers" (.list container), .optional "nodeName" .text,
    .optional "nodeSelector" (.map .text), .optional "os" podOS, .optional "overhead" (.map .text),
    .optional "preemptionPolicy" .text, .optional "priority" (.int 32),
    .optional "priorityClassName" .text, .optional "readinessGates" (.list podReadinessGate),
    .optional "resourceClaims" (.list podResourceClaim), .optional "restartPolicy" .text,
    .optional "runtimeClassName" .text, .optional "schedulerName" .text,
    .optional "schedulingGates" (.list podSchedulingGate),
    .optional "securityContext" podSecurityContext, .optional "serviceAccount" .text,
    .optional "serviceAccountName" .text, .optional "setHostnameAsFQDN" .flag,
    .optional "shareProcessNamespace" .flag, .optional "subdomain" .text,
    .optional "terminationGracePeriodSeconds" (.int 64), .optional "tolerations" (.list toleration),
    .optional "topologySpreadConstraints" (.list topologySpreadConstraint),
    .optional "volumes" (.list volume)]

/-! ## How containers are -/

def containerStateRunning : Shape :=
  .record "ContainerStateRunning" [.optional "startedAt" .time]

def containerStateTerminated : Shape :=
  .record "ContainerStateTerminated" [.optional "containerID" .text, .required "exitCode" (.int 32),
    .optional "finishedAt" .time, .optional "message" .text, .optional "reason" .text,
    .optional "signal" (.int 32), .optional "startedAt" .time]

def containerStateWaiting : Shape :=
  .record "ContainerStateWaiting" [.optional "message" .text, .optional "reason" .text]

def containerState : Shape :=
  .record "ContainerState" [.optional "running" containerStateRunning,
    .optional "terminated" containerStateTerminated, .optional "waiting" containerStateWaiting]

def resourceHealth : Shape :=
  .record "ResourceHealth" [.optional "health" .text, .required "resourceID" .text]

def resourceStatus : Shape :=
  .record "ResourceStatus" [.required "name" .text, .optional "resources" (.list resourceHealth)]

def linuxContainerUser : Shape :=
  .record "LinuxContainerUser" [.required "gid" (.int 64),
    .optional "supplementalGroups" (.list (.int 64)), .required "uid" (.int 64)]

def containerUser : Shape :=
  .record "ContainerUser" [.optional "linux" linuxContainerUser]

def volumeMountStatus : Shape :=
  .record "VolumeMountStatus" [.required "mountPath" .text, .required "name" .text,
    .optional "readOnly" .flag, .optional "recursiveReadOnly" .text]

def containerStatus : Shape :=
  .record "ContainerStatus" [.optional "allocatedResources" (.map .text),
    .optional "allocatedResourcesStatus" (.list resourceStatus), .optional "containerID" .text,
    .required "image" .text, .required "imageID" .text, .optional "lastState" containerState,
    .required "name" .text, .required "ready" .flag, .optional "resources" resourceRequirements,
    .required "restartCount" (.int 32), .optional "started" .flag, .optional "state" containerState,
    .optional "user" containerUser, .optional "volumeMounts" (.list volumeMountStatus)]

/-! ## How pods are -/

def podCondition : Shape :=
  .record "PodCondition" [.optional "lastProbeTime" .time, .optional "lastTransitionTime" .time,
    .optional "message" .text, .optional "reason" .text, .required "status" .text,
    .required "type" .text]

def hostIP : Shape :=
  .record "HostIP" [.required "ip" .text]

def podIP : Shape :=
  .record "PodIP" [.required "ip" .text]

def podResourceClaimStatus : Shape :=
  .record "PodResourceClaimStatus" [.required "name" .text, .optional "resourceClaimName" .text]

def podStatus : Shape :=
  .record "PodStatus" [.optional "conditions" (.list podCondition),
    .optional "containerStatuses" (.list containerStatus),
    .optional "ephemeralContainerStatuses" (.list containerStatus), .optional "hostIP" .text,
    .optional "hostIPs" (.list hostIP), .optional "initContainerStatuses" (.list containerStatus),
    .optional "message" .text, .optional "nominatedNodeName" .text, .optional "phase" .text,
    .optional "podIP" .text, .optional "podIPs" (.list podIP), .optional "qosClass" .text,
    .optional "reason" .text, .optional "resize" .text,
    .optional "resourceClaimStatuses" (.list podResourceClaimStatus), .optional "startTime" .time]

/-! ## Pods -/

def pod : Shape :=
  .record "Pod" [.fixed "apiVersion" "v1", .fixed "kind" "Pod", .required "metadata" objectMeta,
    .optional "spec" podSpec, .optional "status" podStatus]

end PodRunner.Api.Object
