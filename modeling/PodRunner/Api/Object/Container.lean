import PodRunner.Api.Object.Metadata
import PodRunner.Api.Object.Security

/-!
# Containers

Containers with their environment, resources, probes and mounts.
-/

namespace PodRunner.Api.Object

/-! ## Environment -/

def configMapKeySelector : Shape :=
  .record "ConfigMapKeySelector" [.required "key" .text, .required "name" .text,
    .optional "optional" .flag]

def secretKeySelector : Shape :=
  .record "SecretKeySelector" [.required "key" .text, .required "name" .text,
    .optional "optional" .flag]

def envVarSource : Shape :=
  .record "EnvVarSource" [.optional "configMapKeyRef" configMapKeySelector,
    .optional "fieldRef" objectFieldSelector, .optional "resourceFieldRef" resourceFieldSelector,
    .optional "secretKeyRef" secretKeySelector]

def envVar : Shape :=
  .record "EnvVar" [.required "name" .text, .optional "value" .text,
    .optional "valueFrom" envVarSource]

def configMapEnvSource : Shape :=
  .record "ConfigMapEnvSource" [.required "name" .text, .optional "optional" .flag]

def secretEnvSource : Shape :=
  .record "SecretEnvSource" [.required "name" .text, .optional "optional" .flag]

def envFromSource : Shape :=
  .record "EnvFromSource" [.optional "configMapRef" configMapEnvSource, .optional "prefix" .text,
    .optional "secretRef" secretEnvSource]

/-! ## Actions and probes -/

def execAction : Shape :=
  .record "ExecAction" [.optional "command" (.list .text)]

def httpHeader : Shape :=
  .record "HTTPHeader" [.required "name" .text, .required "value" .text]

def httpGetAction : Shape :=
  .record "HTTPGetAction" [.optional "host" .text, .optional "httpHeaders" (.list httpHeader),
    .optional "path" .text, .required "port" .intOrText, .optional "scheme" .text]

def sleepAction : Shape :=
  .record "SleepAction" [.required "seconds" (.int 64)]

def tcpSocketAction : Shape :=
  .record "TCPSocketAction" [.optional "host" .text, .required "port" .intOrText]

def grpcAction : Shape :=
  .record "GRPCAction" [.required "port" (.int 32), .optional "service" .text]

def lifecycleHandler : Shape :=
  .record "LifecycleHandler" [.optional "exec" execAction, .optional "httpGet" httpGetAction,
    .optional "sleep" sleepAction, .optional "tcpSocket" tcpSocketAction]

def lifecycle : Shape :=
  .record "Lifecycle" [.optional "postStart" lifecycleHandler, .optional "preStop" lifecycleHandler]

def probe : Shape :=
  .record "Probe" [.optional "exec" execAction, .optional "failureThreshold" (.int 32),
    .optional "grpc" grpcAction, .optional "httpGet" httpGetAction,
    .optional "initialDelaySeconds" (.int 32), .optional "periodSeconds" (.int 32),
    .optional "successThreshold" (.int 32), .optional "tcpSocket" tcpSocketAction,
    .optional "terminationGracePeriodSeconds" (.int 64), .optional "timeoutSeconds" (.int 32)]

/-! ## Resources, ports and mounts -/

def resourceClaim : Shape :=
  .record "ResourceClaim" [.required "name" .text, .optional "request" .text]

def resourceRequirements : Shape :=
  .record "ResourceRequirements" [.optional "claims" (.list resourceClaim),
    .optional "limits" (.map .text), .optional "requests" (.map .text)]

def containerResizePolicy : Shape :=
  .record "ContainerResizePolicy" [.required "resourceName" .text, .required "restartPolicy" .text]

def containerPort : Shape :=
  .record "ContainerPort" [.required "containerPort" (.int 32), .optional "hostIP" .text,
    .optional "hostPort" (.int 32), .optional "name" .text, .optional "protocol" .text]

def volumeDevice : Shape :=
  .record "VolumeDevice" [.required "devicePath" .text, .required "name" .text]

def volumeMount : Shape :=
  .record "VolumeMount" [.required "mountPath" .text, .optional "mountPropagation" .text,
    .required "name" .text, .optional "readOnly" .flag, .optional "recursiveReadOnly" .text,
    .optional "subPath" .text, .optional "subPathExpr" .text]

/-! ## Containers -/

/-- What all containers have. -/
def containerParts : List Part :=
  [.optional "args" (.list .text), .optional "command" (.list .text),
    .optional "env" (.list envVar), .optional "envFrom" (.list envFromSource),
    .optional "image" .text, .optional "imagePullPolicy" .text, .optional "lifecycle" lifecycle,
    .optional "livenessProbe" probe, .required "name" .text,
    .optional "ports" (.list containerPort), .optional "readinessProbe" probe,
    .optional "resizePolicy" (.list containerResizePolicy),
    .optional "resources" resourceRequirements, .optional "restartPolicy" .text,
    .optional "securityContext" securityContext, .optional "startupProbe" probe,
    .optional "stdin" .flag, .optional "stdinOnce" .flag, .optional "terminationMessagePath" .text,
    .optional "terminationMessagePolicy" .text, .optional "tty" .flag,
    .optional "volumeDevices" (.list volumeDevice), .optional "volumeMounts" (.list volumeMount),
    .optional "workingDir" .text]

def container : Shape := .record "Container" containerParts

/-- A container that is put into a pod that runs. -/
def ephemeralContainer : Shape :=
  .record "EphemeralContainer" (containerParts ++ [.optional "targetContainerName" .text])

end PodRunner.Api.Object
