import TrafficShaping.Files.Tree

/-!
# What is installed

The files of a machine as they are before anything is done on it. There are many of them, so every table
here gives a directory and, with blanks between them, the names in it. Programs are not listed here.
-/

namespace TrafficShaping.Program

namespace Installation

/-- A directory with names of one kind that are in it. -/
structure Group where
  parent : String
  names : String

/-- The paths that groups list. -/
def paths (groups : List Group) : List String :=
  groups.flatMap fun g => (g.names.splitOn " ").map fun n => if g.parent = "" then n else g.parent ++ "/" ++ n

/-- Directories, each after the one that it is in. -/
def directories : List String := paths [
  ⟨"", "boot dev etc home media mnt opt proc root run srv sys tmp usr var"⟩,
  ⟨"dev", "mqueue pts shm"⟩,
  ⟨"etc", "alternatives apt cron.d cron.daily default dpkg gss init.d kernel ld.so.conf.d logrotate.d opt pam.d"⟩,
  ⟨"etc", "perl profile.d rc0.d rc1.d rc2.d rc3.d rc4.d rc5.d rc6.d rcS.d security selinux skel ssl ssl/certs"⟩,
  ⟨"etc", "ssl/private systemd terminfo update-motd.d apt/apt.conf.d apt/preferences.d apt/sources.list.d"⟩,
  ⟨"etc", "apt/trusted.gpg.d dpkg/dpkg.cfg.d"⟩,
  ⟨"proc", "1 1/fd 1/ns 1/net 1/task bus driver fs irq sys sys/fs sys/kernel sys/net sys/vm tty"⟩,
  ⟨"run", "lock"⟩,
  ⟨"srv", "work"⟩,
  ⟨"sys", "block bus class class/net dev devices firmware fs fs/cgroup kernel module power"⟩,
  ⟨"usr", "bin games include include/arpa include/c++ include/linux include/net include/netinet"⟩,
  ⟨"usr", "include/x86_64-linux-gnu include/x86_64-linux-gnu/sys lib lib/apt lib/dpkg lib/gcc lib/init lib/locale"⟩,
  ⟨"usr", "lib/lsb lib/ssl lib/systemd lib/tmpfiles.d lib/udev lib/x86_64-linux-gnu lib64 libexec local"⟩,
  ⟨"usr/local", "bin etc games include lib sbin share share/man src"⟩,
  ⟨"usr", "sbin share src"⟩,
  ⟨"usr/share", "base-files base-passwd bash-completion bug ca-certificates common-licenses debconf dict doc"⟩,
  ⟨"usr/share", "doc-base dpkg gcc info keyrings libc-bin lintian locale man man/man1 menu misc pam pam-configs"⟩,
  ⟨"usr/share", "perl perl5 pixmaps polkit-1 tabset terminfo util-linux zoneinfo zoneinfo/Etc"⟩,
  ⟨"var", "backups cache cache/apt cache/debconf cache/ldconfig lib lib/apt lib/apt/lists lib/dpkg lib/dpkg/info"⟩,
  ⟨"var", "lib/misc lib/pam lib/systemd local log log/apt mail opt spool tmp"⟩]

/-- Links, with what they lead to. -/
def links : List (String × String) :=
  [("bin", "usr/bin"), ("lib", "usr/lib"), ("lib64", "usr/lib64"), ("sbin", "usr/sbin"),
    ("dev/ptmx", "pts/ptmx"), ("etc/localtime", "/usr/share/zoneinfo/Etc/UTC"), ("etc/mtab", "/proc/mounts"),
    ("etc/os-release", "../usr/lib/os-release"), ("etc/rmt", "/usr/sbin/rmt"), ("proc/mounts", "self/mounts"),
    ("proc/net", "self/net"), ("proc/self", "1"), ("proc/thread-self", "1"), ("proc/1/cwd", "/srv/work"),
    ("proc/1/root", "/"), ("usr/local/man", "share/man"), ("var/lock", "/run/lock"), ("var/run", "/run"),
    ("var/spool/mail", "../mail")]

/-- Files that are no programs. -/
def files : List String := paths [
  ⟨"dev", "full null random stderr stdin stdout tty urandom zero pts/ptmx"⟩,
  ⟨"etc", ".pwd.lock adduser.conf bash.bashrc bindresvport.blacklist ca-certificates.conf debconf.conf"⟩,
  ⟨"etc", "debian_version deluser.conf e2scrub.conf environment fstab gai.conf group group- gshadow gshadow-"⟩,
  ⟨"etc", "host.conf hostname hosts issue issue.net ld.so.cache ld.so.conf libaudit.conf login.defs machine-id"⟩,
  ⟨"etc", "mke2fs.conf networks nsswitch.conf pam.conf passwd passwd- profile protocols resolv.conf rpc services"⟩,
  ⟨"etc", "shadow shadow- shells subgid subgid- subuid subuid- sysctl.conf timezone xattr.conf"⟩,
  ⟨"etc", "dpkg/dpkg.cfg ld.so.conf.d/libc.conf pam.d/login skel/.bash_logout skel/.bashrc"⟩,
  ⟨"etc", "skel/.profile ssl/openssl.cnf ssl/certs/ca-certificates.crt"⟩,
  ⟨"proc", "cgroups cmdline cpuinfo devices diskstats filesystems interrupts kallsyms kmsg loadavg locks meminfo"⟩,
  ⟨"proc", "misc modules partitions stat swaps sysrq-trigger uptime version vmstat sys/kernel/hostname"⟩,
  ⟨"proc", "sys/kernel/osrelease sys/kernel/ostype sys/kernel/pid_max 1/cgroup 1/cmdline 1/comm 1/environ 1/limits"⟩,
  ⟨"proc", "1/maps 1/mountinfo 1/mounts 1/stat 1/statm 1/status 1/net/dev 1/ns/cgroup 1/ns/ipc 1/ns/mnt 1/ns/net"⟩,
  ⟨"proc", "1/ns/pid 1/ns/user 1/ns/uts"⟩,
  ⟨"usr/include", "assert.h ctype.h dirent.h dlfcn.h elf.h errno.h fcntl.h features.h float.h getopt.h grp.h"⟩,
  ⟨"usr/include", "inttypes.h limits.h locale.h malloc.h math.h memory.h netdb.h paths.h poll.h pthread.h pwd.h"⟩,
  ⟨"usr/include", "regex.h sched.h semaphore.h setjmp.h signal.h stdint.h stdio.h stdlib.h string.h strings.h"⟩,
  ⟨"usr/include", "syslog.h termios.h time.h unistd.h wchar.h wctype.h linux/netlink.h linux/types.h"⟩,
  ⟨"usr/lib", "os-release"⟩,
  ⟨"usr/share", "common-licenses/GPL-3 zoneinfo/Etc/UTC zoneinfo/UTC"⟩,
  ⟨"var", "lib/dpkg/available lib/dpkg/status log/alternatives.log log/dpkg.log log/faillog log/lastlog"⟩]

/-- The accounts of a machine, one to a line. -/
def accounts : String := "root:x:0:0:root:/root:/bin/bash
daemon:x:1:1:daemon:/usr/sbin:/usr/sbin/nologin
bin:x:2:2:bin:/bin:/usr/sbin/nologin
sys:x:3:3:sys:/dev:/usr/sbin/nologin
sync:x:4:65534:sync:/bin:/bin/sync
games:x:5:60:games:/usr/games:/usr/sbin/nologin
man:x:6:12:man:/var/cache/man:/usr/sbin/nologin
lp:x:7:7:lp:/var/spool/lpd:/usr/sbin/nologin
mail:x:8:8:mail:/var/mail:/usr/sbin/nologin
news:x:9:9:news:/var/spool/news:/usr/sbin/nologin
uucp:x:10:10:uucp:/var/spool/uucp:/usr/sbin/nologin
proxy:x:13:13:proxy:/bin:/usr/sbin/nologin
www-data:x:33:33:www-data:/var/www:/usr/sbin/nologin
backup:x:34:34:backup:/var/backups:/usr/sbin/nologin
list:x:38:38:Mailing List Manager:/var/list:/usr/sbin/nologin
irc:x:39:39:ircd:/run/ircd:/usr/sbin/nologin
_apt:x:42:65534::/nonexistent:/usr/sbin/nologin
nobody:x:65534:65534:nobody:/nonexistent:/usr/sbin/nologin
"

/-- The shells that may be used to log in. -/
def loginShells : String := "# /etc/shells: valid login shells
/bin/sh
/usr/bin/sh
/bin/bash
/usr/bin/bash
/bin/rbash
/usr/bin/rbash
/usr/bin/dash
"

/-- What is in files, where that is the same on every machine. -/
def contents : List (String × String) := [("etc/passwd", accounts), ("etc/shells", loginShells)]

end Installation

end TrafficShaping.Program
