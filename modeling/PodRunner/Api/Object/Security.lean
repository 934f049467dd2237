import PodRunner.Api.Shape

/-!
# Security

What containers and pods may do.
-/

namespace PodRunner.Api.Object

def appArmorProfile : Shape :=
  .record "AppArmorProfile" [.optional "localhostProfile" .text, .required "type" .text]

def seccompProfile : Shape :=
  .record "SeccompProfile" [.optional "localhostProfile" .text, .required "type" .text]

def seLinuxOptions : Shape :=
  .record "SELinuxOptions" [.optional "level" .text, .optional "role" .text, .optional "type" .text,
    .optional "user" .text]

def windowsSecurityContextOptions : Shape :=
  .record "WindowsSecurityContextOptions" [.optional "gmsaCredentialSpec" .text,
    .optional "gmsaCredentialSpecName" .text, .optional "hostProcess" .flag,
    .optional "runAsUserName" .text]

def capabilities : Shape :=
  .record "Capabilities" [.optional "add" (.list .text), .optional "drop" (.list .text)]

def securityContext : Shape :=
  .record "SecurityContext" [.optional "allowPrivilegeEscalation" .flag,
    .optional "appArmorProfile" appArmorProfile, .optional "capabilities" capabilities,
    .optional "privileged" .flag, .optional "procMount" .text,
    .optional "readOnlyRootFilesystem" .flag, .optional "runAsGroup" (.int 64),
    .optional "runAsNonRoot" .flag, .optional "runAsUser" (.int 64),
    .optional "seLinuxOptions" seLinuxOptions, .optional "seccompProfile" seccompProfile,
    .optional "windowsOptions" windowsSecurityContextOptions]

def sysctl : Shape :=
  .record "Sysctl" [.required "name" .text, .required "value" .text]

def podSecurityContext : Shape :=
  .record "PodSecurityContext" [.optional "appArmorProfile" appArmorProfile,
    .optional "fsGroup" (.int 64), .optional "fsGroupChangePolicy" .text,
    .optional "runAsGroup" (.int 64), .optional "runAsNonRoot" .flag,
    .optional "runAsUser" (.int 64), .optional "seLinuxOptions" seLinuxOptions,
    .optional "seccompProfile" seccompProfile, .optional "supplementalGroups" (.list (.int 64)),
    .optional "supplementalGroupsPolicy" .text, .optional "sysctls" (.list sysctl),
    .optional "windowsOptions" windowsSecurityContextOptions]

end PodRunner.Api.Object
