set_option autoImplicit false

namespace Animacharacter.Orchestration

-- system_commons.alert_codes
namespace AlertCodes
def INF_SESSION_CREATION_REQUEST : Int := 100
def INF_SESSION_CLOSURE_REQUEST : Int := 110
def INF_SESSION_CREATION_OK : Int := 120
def INF_SESSION_CLOSURE_OK : Int := 130
def ERR_SESSION_CREATION_FAILED : Int := 140
def FTL_HW_CONTROLLER_FATAL : Int := 180
def FTL_CORE_PROC_CRASH : Int := 200
def ERR_NONCRITICAL_PROC_CRASH : Int := 230
def HEARTBEAT_TIMEOUT : Int := 220
end AlertCodes

-- system_commons.exit_codes
def exitCauses : List (Int × String) :=
  [(19, "no hardware configuration files were specified"),
    (20, "the hardware configuration could not be loaded"),
    (21, "no hardware configuration was selected"),
    (22, "the selected hardware configuration is unknown or invalid"),
    (30, "the hardware manager databus failed during shutdown"),
    (31, "one or more hardware controllers failed to load"),
    (40, "a hardware controller reported a fatal error")]

def getCause (exitCode : Int) : String := (exitCauses.lookup exitCode).getD s!"unknown_exit_code ({exitCode})"

-- system_commons.proc_names
def DOMAIN_CORE : String := "core"

def getDomainFromProcName (name : String) : Option String :=
  match name.toList.splitOn ':' with
  | [domain, _] => some (String.ofList domain)
  | _ => none

end Animacharacter.Orchestration
