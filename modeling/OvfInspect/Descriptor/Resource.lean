/-!
# Kinds of hardware

The kinds of hardware that items describe, with the codes that stand for them in descriptors.
-/

namespace OvfInspect

inductive ResourceKind where
  | cpu
  | memory
  | ide
  | scsi
  | fibreChannel
  | iscsi
  | infiniBand
  | ethernet
  | floppy
  | cdrom
  | dvd
  | hardDisk
  | sata
  | serial
  | parallel
  | usb
  deriving DecidableEq, Repr

namespace ResourceKind

def all : List ResourceKind :=
  [cpu, memory, ide, scsi, fibreChannel, iscsi, infiniBand, ethernet, floppy, cdrom, dvd, hardDisk,
   sata, serial, parallel, usb]

def code : ResourceKind → Nat
  | cpu => 3
  | memory => 4
  | ide => 5
  | scsi => 6
  | fibreChannel => 7
  | iscsi => 8
  | infiniBand => 9
  | ethernet => 10
  | floppy => 14
  | cdrom => 15
  | dvd => 16
  | hardDisk => 17
  | sata => 20
  | serial => 21
  | parallel => 22
  | usb => 23

def name : ResourceKind → String
  | cpu => "cpu"
  | memory => "memory"
  | ide => "ide"
  | scsi => "scsi"
  | fibreChannel => "fc"
  | iscsi => "iscsi"
  | infiniBand => "ib"
  | ethernet => "ethernet"
  | floppy => "floppy"
  | cdrom => "cdrom"
  | dvd => "dvd"
  | hardDisk => "harddisk"
  | sata => "sata"
  | serial => "serial"
  | parallel => "parallel"
  | usb => "usb"

end ResourceKind

end OvfInspect
