-- The host functions that guest code can call, in the order in which they are installed.
-- Each takes two texts and answers with one.

namespace GuestSandbox

inductive HostCall where
  | log
  | pkgInstall
  | pkgList
  | fetch
deriving Repr, DecidableEq, Inhabited

namespace HostCall

def all : List HostCall := [.log, .pkgInstall, .pkgList, .fetch]

def name : HostCall → String
  | .log => "__host_log"
  | .pkgInstall => "__host_pkg_install"
  | .pkgList => "__host_pkg_list"
  | .fetch => "__host_fetch"

def operation : HostCall → String
  | .log => "log"
  | .pkgInstall => "pkgInstall"
  | .pkgList => "pkgList"
  | .fetch => "fetch"

def ofName? (name : String) : Option HostCall := all.find? (·.name == name)

end HostCall

end GuestSandbox
