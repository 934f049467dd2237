import PodRunner.Value
import PodRunner.Pod.Phase

/-!
# What a pod object says about its pod

The phase of a pod object, and the first of its containers that waits for something that will never
come.
-/

namespace PodRunner.Api

/-- The reasons for which a container waits forever. -/
def fatalReasons : List String :=
  ["ErrImagePull", "ImagePullBackOff", "InvalidImageName", "CreateContainerConfigError"]

/-- Why a container waits, by its status object. -/
def waitingReason? (status : Value) : Option String :=
  (((status.get "state").get "waiting").get "reason").text?

/-- Why a container waits forever, by its status object. -/
def fatalReason? (status : Value) : Option String :=
  (waitingReason? status).filter (fatalReasons.contains ·)

/-- What polling looks at in a pod object. -/
def podState (pod : Value) : PodState :=
  let status := pod.get "status"
  ⟨((status.get "phase").text?.map Phase.ofText).getD .unknown,
    (status.get "containerStatuses").items.findSome? fatalReason?⟩

end PodRunner.Api
